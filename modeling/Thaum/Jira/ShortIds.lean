import Thaum.Bots.AckCommand
import Thaum.Jira.Acknowledge
import Thaum.Jira.CreateOrder

/-!
# Which alert a short id stands for

Short ids are drawn anew for each alert and rows are kept for good, so a short id may
be that of many rows, and `mapping_for_short_id` takes whichever comes first. An
acknowledge command acts on the alert returned last with its short id, in every order
of the rows, exactly if the row of that alert leads to it and no other row has the
short id. The conditions of `Safe` say when a step keeps it so.
-/

namespace Thaum.Jira.AlertRuns

open PyText PyJson PyRequests KeyedRows GuardedRuns Bots

variable {ι : Type} {alert : ι → TriggeredAlert} {i j : ι} {state : RunState ι}
  {row : JiraAlertMap} {map : AlertMap}

/-- The alert returned last with a short id. -/
def latestReturned (alert : ι → TriggeredAlert) (state : RunState ι) (shortId : Text) :
    Option ι :=
  state.returned.find? fun i => (alert i).shortId.text == shortId

/-- The alert that Jira accepted last under an alias. -/
def latestPosted (alert : ι → TriggeredAlert) (state : RunState ι) (alertAlias : Text) :
    Option ι :=
  state.posted.find? fun i => (alert i).alertAlias == alertAlias

/-- Jira answers a lookup with the id of the alert it accepted last under the alias. -/
def AliasesAnswered (alert : ι → TriggeredAlert) (state : RunState ι)
    (lookup : Text → Response) : Prop :=
  ∀ alertAlias i, latestPosted alert state alertAlias = some i →
    ∃ fields, (lookup alertAlias).json? = some (.obj fields) ∧
      get "id".toList fields = .str (alert i).jiraId.text

/-- The text is `ack`, blanks and the short id, in any letter case. -/
def AckText (shortId typed text : Text) : Prop :=
  ∃ ack gap, text = ack ++ gap ++ typed ∧ SpelledAs "ack".toList ack ∧ gap ≠ [] ∧
    gap.all isSpace = true ∧ SpelledAs (shortId.map Char.toLower) typed

/-- Whatever the order of the rows, an acknowledge command acts on the alert returned
last with its short id. -/
def AcksLatest (alert : ι → TriggeredAlert) (bot : Bot) (config : BotConfig)
    (state : RunState ι) : Prop :=
  ∀ i text typed rendering scan (calls : AckCalls) now person db,
    latestReturned alert state (alert i).shortId.text = some i →
    AckText (alert i).shortId.text typed text → AliasesAnswered alert state calls.lookup →
    hear config text = some (.acknowledge typed) ∧
      ActsOn (acknowledgeAlert rendering scan bot calls now typed person state.map db).1
        (alert i).jiraId.text

/-- The Jira id that the row of an alert leads to: the stored one, or the one that Jira
answers. -/
def aim (alert : ι → TriggeredAlert) (state : RunState ι) (i : ι) : Option Text :=
  (linkOf (alert i) state.map).or
    ((latestPosted alert state (alert i).alertAlias).map fun j => (alert j).jiraId.text)

/-- The short id of an alert leads to it. -/
structure Leads (alert : ι → TriggeredAlert) (state : RunState ι) (i : ι) : Prop where
  stored : (rowOf (alert i) state.map).isSome = true
  aimed : aim alert state i = some (alert i).jiraId.text
  alone : ∀ j, (alert j).shortId.text = (alert i).shortId.text →
    (rowOf (alert j) state.map).isSome = true → (alert j).key = (alert i).key

/-- Every short id leads to the alert returned last with it. -/
def Settled (alert : ι → TriggeredAlert) (state : RunState ι) : Prop :=
  ∀ i, latestReturned alert state (alert i).shortId.text = some i → Leads alert state i

/-- The letters of short ids are capitals and digits. -/
theorem alphabet_capitals : ∀ c ∈ shortIdAlphabet,
    c.isLower = false ∧ upperChar c = [c] ∧ upperChar c.toLower = [c] := by decide

/-- They are among the characters of an id in the acknowledge pattern, in either case. -/
theorem alphabet_idChars : ∀ c ∈ shortIdAlphabet,
    isAlertIdChar c = true ∧ isAlertIdChar c.toLower = true := by decide

/-- A short id is heard in any letter case, and its upper case is the short id. -/
theorem ack_typed (shortId : ShortId) {config : BotConfig} (alerts : config.sendAlerts = true)
    (acknowledges : config.supportsAcknowledge = true) {typed text : Text}
    (spelled : AckText shortId.text typed text) :
    hear config text = some (.acknowledge typed) ∧ upper (strip typed) = shortId.text := by
  obtain ⟨ack, gap, rfl, word, apart, blank, sameLetters⟩ := spelled
  have four : typed.length = 4 := by
    have lengths := congrArg List.length sameLetters
    rw [List.length_map, List.length_map, shortId.four] at lengths
    exact lengths
  have idChars : ∀ c ∈ typed, isAlertIdChar c = true := by
    intro c listed
    have lowered : c.toLower ∈ shortId.text.map Char.toLower :=
      sameLetters ▸ List.mem_map_of_mem listed
    obtain ⟨d, inId, same⟩ := List.mem_map.mp lowered
    obtain ⟨ofCapital, ofSmall⟩ := alphabet_idChars d (shortId.drawn d inId)
    rcases toLower_same same.symm with rfl | rfl | isLower
    · exact ofCapital
    · exact ofSmall
    · have notSmall := (alphabet_capitals d (shortId.drawn d inId)).1
      rw [toLower_symbol isLower.symm notSmall]
      exact ofCapital
  have solid : strip typed = typed := by
    refine trimmed_of_ends _ ?_ ?_
    · exact fun c first => isAlertIdChar_solid (idChars c (List.mem_of_mem_head? first))
    · exact fun c last => isAlertIdChar_solid (idChars c (List.mem_of_mem_getLast? last))
  refine ⟨ack_heard config alerts acknowledges word apart blank four idChars, ?_⟩
  rw [solid]
  exact upper_spelled sameLetters fun c inId => alphabet_capitals c (shortId.drawn c inId)

/-- The row of an alert is stored, under its key and with its short id. -/
theorem Consistent.rowOf_facts (consistent : Consistent alert state)
    (found : rowOf (alert j) state.map = some row) :
    row ∈ state.map.rows ∧ row.key = (alert j).key ∧ row.shortId = (alert j).shortId.text := by
  obtain ⟨stored, sameBot, sameAlias⟩ := AlertMap.row?_some found
  obtain ⟨k, _, keyed, isShort, _⟩ := (consistent.rows _ List.mem_cons_self row stored).recorded
  have sameKey : row.key = (alert j).key := Prod.ext sameBot sameAlias
  have sameAlerts : (alert k).alertAlias = (alert j).alertAlias :=
    congrArg Prod.snd (keyed.symm.trans sameKey)
  exact ⟨stored, sameKey, isShort.trans (datedAlias_shortId sameAlerts)⟩

/-- A stored row is that of one of the alerts, since every row says what a posted alert says. -/
theorem Consistent.row_index (consistent : Consistent alert state)
    (stored : row ∈ state.map.rows) : ∃ j, rowOf (alert j) state.map = some row := by
  obtain ⟨j, _, keyed, _⟩ := (consistent.rows _ List.mem_cons_self row stored).recorded
  refine ⟨j, ?_⟩
  rw [rowOf, ← keyed]
  exact AlertMap.row?_of_mem stored

/-- Alerts with one row are led to the same Jira id. -/
theorem aim_congr (same : (alert i).key = (alert j).key) :
    aim alert state i = aim alert state j := by
  have sameAlias : (alert i).alertAlias = (alert j).alertAlias := congrArg Prod.snd same
  rw [aim, aim, linkOf, linkOf, rowOf, rowOf, same, sameAlias]

/-- The alert that was accepted last under an alias has that alias. -/
theorem latestPosted_alias {alertAlias : Text}
    (latest : latestPosted alert state alertAlias = some i) :
    (alert i).alertAlias = alertAlias := by
  simpa using List.find?_some latest

/-- The row is of the bot and has the short id. -/
def hasShortId (shortId : ShortId) (botKey : Text) (row : JiraAlertMap) : Bool :=
  row.shortId == shortId.text && row.botKey == strip botKey

/-- The row of an alert has the short ids that the alert has. -/
theorem Consistent.hasShortId_iff (consistent : Consistent alert state) {botKey : Text}
    {shortId : ShortId} (isRow : rowOf (alert j) state.map = some row)
    (ofBot : (alert j).botKey = botKey) :
    hasShortId shortId botKey row = true ↔ (alert j).shortId.text = shortId.text := by
  obtain ⟨_, keyed, isShort⟩ := consistent.rowOf_facts isRow
  have sameBot : row.botKey = strip botKey :=
    (congrArg Prod.fst keyed).trans (congrArg strip ofBot)
  simp [hasShortId, isShort, sameBot]

/-- The mapping of a short id is that of the first row of the bot with it, in the order of the
scan. -/
theorem ackMapping_first {scan : Scan JiraAlertMap} {botKey typed : Text} (shortId : ShortId)
    (isShort : upper (strip typed) = shortId.text) (keyed : NonBlank botKey) :
    ackMapping scan botKey typed map =
      (scan.first (hasShortId shortId botKey) map.rows).map fun row =>
        (row.jiraAlertId, row.roomId, row.alertAlias) := by
  have named : botKey ≠ [] := by
    rintro rfl
    exact keyed rfl
  rw [ackMapping, if_neg named, isShort, mappingForShortId, shortId.trimmed,
    if_neg (not_or.mpr ⟨shortId.nonblank, keyed⟩)]
  rfl

/-- An acknowledge request is sent only for a bot with a key. -/
theorem ackTarget_keyed {rendering : Rendering} {scan : Scan JiraAlertMap}
    {lookup : Text → Response} {botKey typed id : Text}
    (targeted : ackTarget rendering scan lookup botKey typed map = some id) : NonBlank botKey := by
  intro blank
  have unmapped : ackMapping scan botKey typed map = none := by
    rw [ackMapping, mappingForShortId, if_pos (Or.inr blank), ite_self]
  rw [ackTarget, unmapped] at targeted
  simp at targeted

/-- The lookup of an alias finds the alert that Jira answers. -/
theorem lookupAlertIdByAlias_answered {rendering : Rendering} {lookup : Text → Response}
    (answered : AliasesAnswered alert state lookup)
    (latest : latestPosted alert state (alert j).alertAlias = some i) :
    lookupAlertIdByAlias rendering lookup (alert j).alertAlias =
      some (alert i).jiraId.text := by
  obtain ⟨fields, body, isId⟩ := answered _ i latest
  rw [lookupAlertIdByAlias, (alert j).alias_trimmed, if_neg (alert j).alias_nonblank, body,
    Option.map_some]
  dsimp only
  rw [isId, strOrBlank_str, (alert i).jiraId.strip_text]

/-- The request is for the alert that the first row leads to: by its Jira id, or by what Jira
answers for its alias. -/
theorem Consistent.ackTarget_first (consistent : Consistent alert state) {rendering : Rendering}
    {scan : Scan JiraAlertMap} {lookup : Text → Response} {botKey typed : Text}
    {shortId : ShortId} (answered : AliasesAnswered alert state lookup)
    (isShort : upper (strip typed) = shortId.text) (keyed : NonBlank botKey)
    (first : scan.first (hasShortId shortId botKey) state.map.rows = some row)
    (isRow : rowOf (alert j) state.map = some row) :
    ackTarget rendering scan lookup botKey typed state.map = aim alert state j := by
  obtain ⟨stored, sameKey, _⟩ := consistent.rowOf_facts isRow
  have of := consistent.rows _ List.mem_cons_self row stored
  have aliased : strip row.alertAlias = (alert j).alertAlias := by
    rw [show row.alertAlias = (alert j).alertAlias from congrArg Prod.snd sameKey]
    exact (alert j).alias_trimmed
  have link : linkOf (alert j) state.map = row.jiraAlertId := by rw [linkOf, isRow]; rfl
  rw [ackTarget, ackMapping_first shortId isShort keyed, first, aim, link]
  dsimp only [Option.map_some]
  cases linked : row.jiraAlertId with
  | some id =>
    obtain ⟨k, _, _, rfl⟩ := of.linked id linked
    simp [(alert k).jiraId.nonblank]
  | none =>
    obtain ⟨k, isPosted, isKey, _⟩ := of.recorded
    have sameAlias : (alert k).alertAlias = (alert j).alertAlias :=
      congrArg Prod.snd (isKey.symm.trans sameKey)
    have found : (latestPosted alert state (alert j).alertAlias).isSome = true := by
      rw [latestPosted, List.find?_isSome]
      exact ⟨k, isPosted, by simp [sameAlias]⟩
    obtain ⟨latest, isLatest⟩ := Option.isSome_iff_exists.mp found
    rw [aliased, lookupAlertIdByAlias_answered answered isLatest, isLatest]
    simp [(alert latest).jiraId.nonblank]

/-- Only the row of an alert leads to its Jira id, as Jira ids are apart. -/
theorem Consistent.aim_key (consistent : Consistent alert state) (apart : IdsApart alert)
    (oneBot : ∀ i j, (alert i).botKey = (alert j).botKey)
    (aimed : aim alert state j = some (alert i).jiraId.text) :
    (alert j).key = (alert i).key := by
  rcases Option.or_eq_some_iff.mp aimed with linked | ⟨_, looked⟩
  · obtain ⟨row, isRow, isId⟩ := Option.bind_eq_some_iff.mp linked
    obtain ⟨stored, sameKey, _⟩ := consistent.rowOf_facts isRow
    obtain ⟨k, _, isKey, same⟩ := (consistent.rows _ List.mem_cons_self row stored).linked _ isId
    rw [← sameKey, isKey, apart i k same]
  · obtain ⟨k, latest, same⟩ := Option.map_eq_some_iff.mp looked
    rw [← apart k i same]
    exact Prod.ext (congrArg strip (oneBot j k)) (latestPosted_alias latest).symm

/-- Jira answering for the aliases. -/
def answeringLookup (alert : ι → TriggeredAlert) (state : RunState ι) (alertAlias : Text) :
    Response :=
  match latestPosted alert state alertAlias with
  | some i => .answered 200 (some (.obj [("id".toList, .str (alert i).jiraId.text)]))
  | none => .raised

/-- That lookup answers as it is asked of one. -/
theorem answeringLookup_answered : AliasesAnswered alert state (answeringLookup alert state) := by
  intro alertAlias i latest
  rw [answeringLookup, latest]
  exact ⟨_, rfl, rfl⟩

/-- Acknowledge commands act on the latest alerts exactly in the settled states.

Proof: in a settled state every row with the short id leads to the latest alert, so the order does
not matter. The other way some order finds any given row first, and the command acts on what that
row leads to. -/
theorem Consistent.acksLatest_iff (consistent : Consistent alert state) (apart : IdsApart alert)
    {bot : Bot} {config : BotConfig} (oneBot : ∀ i, (alert i).botKey = bot.botKey)
    (alerts : config.sendAlerts = true) (acknowledges : config.supportsAcknowledge = true) :
    AcksLatest alert bot config state ↔ Settled alert state := by
  have sameBot (i j : ι) : (alert i).botKey = (alert j).botKey := (oneBot i).trans (oneBot j).symm
  constructor
  · intro acks i latest
    have typed : AckText (alert i).shortId.text (alert i).shortId.text
        ("ack".toList ++ " ".toList ++ (alert i).shortId.text) :=
      ⟨_, _, rfl, rfl, by decide, by decide, rfl⟩
    have isShort := (ack_typed (alert i).shortId alerts acknowledges typed).2
    have targeted (scan : Scan JiraAlertMap) :
        ackTarget asciiRendering scan (answeringLookup alert state) bot.botKey
          (alert i).shortId.text state.map = some (alert i).jiraId.text :=
      acknowledgeAlert_acts.mp (acks i _ _ asciiRendering scan
        { lookup := answeringLookup alert state, acknowledge := .raised
          email := { lookup := .raised, search := .raised, mergeCommits := true }
          assign := .raised } 0 (.ofEmail []) .empty latest typed answeringLookup_answered).2
    have keyed := ackTarget_keyed (targeted .stored)
    have aimed {scan : Scan JiraAlertMap} {row : JiraAlertMap} {j : ι}
        (first : scan.first (hasShortId (alert i).shortId bot.botKey) state.map.rows = some row)
        (isRow : rowOf (alert j) state.map = some row) :
        aim alert state j = some (alert i).jiraId.text := by
      rw [← consistent.ackTarget_first answeringLookup_answered isShort keyed first isRow]
      exact targeted scan
    cases first : Scan.stored.first (hasShortId (alert i).shortId bot.botKey)
        state.map.rows with
    | none =>
      have found := targeted .stored
      rw [ackTarget, ackMapping_first (alert i).shortId isShort keyed, first] at found
      simp at found
    | some row =>
      obtain ⟨j, isRow⟩ := consistent.row_index (Scan.first_some first).1
      have sameKey := consistent.aim_key apart sameBot (aimed first isRow)
      constructor
      · rw [rowOf, ← sameKey, ← rowOf, isRow]
        rfl
      · rw [← aim_congr sameKey]
        exact aimed first isRow
      · intro k sameShort isStored
        obtain ⟨other, isOther⟩ := Option.isSome_iff_exists.mp isStored
        have matching : hasShortId (alert i).shortId bot.botKey other = true :=
          (consistent.hasShortId_iff isOther (oneBot k)).mpr sameShort
        obtain ⟨scan, firstOther⟩ :=
          Scan.exists_first (consistent.rowOf_facts isOther).1 matching
        exact consistent.aim_key apart sameBot (aimed firstOther isOther)
  · intro settled i text typed rendering scan calls now person db latest spelled answered
    obtain ⟨heard, isShort⟩ := ack_typed (alert i).shortId alerts acknowledges spelled
    refine ⟨heard, acknowledgeAlert_acts.mpr ?_⟩
    obtain ⟨isStored, aimed, alone⟩ := settled i latest
    obtain ⟨own, isOwn⟩ := Option.isSome_iff_exists.mp isStored
    obtain ⟨member, keyOwn, _⟩ := consistent.rowOf_facts isOwn
    have botOwn : own.botKey = strip bot.botKey :=
      (congrArg Prod.fst keyOwn).trans (congrArg strip (oneBot i))
    have keyed : NonBlank bot.botKey :=
      botOwn.symm.trans_ne (consistent.rows _ List.mem_cons_self own member).keyed
    cases first : scan.first (hasShortId (alert i).shortId bot.botKey) state.map.rows with
    | none =>
      have unmatched := Scan.first_none_iff.mp first own member
      rw [(consistent.hasShortId_iff isOwn (oneBot i)).mpr rfl] at unmatched
      cases unmatched
    | some row =>
      obtain ⟨stored, matching⟩ := Scan.first_some first
      obtain ⟨j, isRow⟩ := consistent.row_index stored
      have sameShort : (alert j).shortId.text = (alert i).shortId.text :=
        (consistent.hasShortId_iff isRow (oneBot j)).mp matching
      rw [consistent.ackTarget_first answered isShort keyed first isRow,
        aim_congr (alone j sameShort (by rw [isRow]; rfl)), aimed]

/-- The bot and the room of an alert have ids. -/
def Named (alert : TriggeredAlert) : Prop := NonBlank alert.botKey ∧ NonBlank alert.roomId

/-- The alert returned last with the short id of an alert, if there is one, is the same
alert at Jira. -/
def Fits (alert : ι → TriggeredAlert) (state : RunState ι) (i : ι) : Prop :=
  ∀ latest, latestReturned alert state (alert i).shortId.text = some latest →
    (alert latest).jiraId.text = (alert i).jiraId.text

/-- Once an alert is recorded its short id leads to it: a row is written or was there, it
leads to the alert, and no other row has the short id. -/
structure Recordable (alert : ι → TriggeredAlert) (state : RunState ι) (i : ι) : Prop where
  written : Named (alert i) ∨ (rowOf (alert i) state.map).isSome = true
  aimed : aim alert state i = some (alert i).jiraId.text
  alone : ∀ j, (alert j).shortId.text = (alert i).shortId.text →
    (rowOf (alert j) state.map).isSome = true → (alert j).key = (alert i).key

/-- The conditions under which a step leaves every short id to the alert returned last
with it. -/
def Safe (alert : ι → TriggeredAlert) (state : RunState ι) : RunEvent alert → Prop
  | .post i => i ∉ state.posted → ∀ row ∈ rowOf (alert i) state.map,
      row.jiraAlertId = none → Fits alert state i
  | .record i commits => i ∈ state.pending → commits = true ∨ ¬ Named (alert i) →
      Recordable alert state i
  | .webhook i delivery lag => i ∈ state.posted → IsCreate i (.webhook i delivery lag) →
      (rowOf (alert i) state.map).isSome = true → Fits alert state i

/-- The alert returned last with a short id has it. -/
theorem latestReturned_shortId {shortId : Text}
    (latest : latestReturned alert state shortId = some i) : (alert i).shortId.text = shortId := by
  simpa using List.find?_some latest

/-- Alerts with one row have one short id. -/
theorem shortId_of_key (same : (alert i).key = (alert j).key) :
    (alert i).shortId.text = (alert j).shortId.text :=
  datedAlias_shortId (congrArg Prod.snd same)

/-- Alerts with one key have the same row. -/
theorem rowOf_congr (same : (alert i).key = (alert j).key) :
    rowOf (alert i) map = rowOf (alert j) map := by
  rw [rowOf, rowOf, same]

/-- Alerts with one key have the same link. -/
theorem linkOf_congr (same : (alert i).key = (alert j).key) :
    linkOf (alert i) map = linkOf (alert j) map := by
  rw [linkOf, linkOf, rowOf_congr same]

/-- A written row is read under its key only. -/
theorem rowOf_write (free : Free JiraAlertMap.key JiraAlertMap.jiraAlertId row map.rows)
    (keyed : row.key = (alert i).key) : rowOf (alert j) (map.write row free) =
      if (alert j).key = (alert i).key then some row else rowOf (alert j) map := by
  split
  · rename_i same
    rw [rowOf, same, ← keyed]
    exact AlertMap.row?_write_same free
  · rename_i different
    exact AlertMap.row?_write_other free fun same => different (same.symm.trans keyed)

/-- Only the table, the posted alerts and the returned ones matter; what was said or remembered does
not. -/
theorem Settled.congr {other : RunState ι} (settled : Settled alert state)
    (sameMap : other.map = state.map) (samePosted : other.posted = state.posted)
    (sameReturned : other.returned = state.returned) : Settled alert other := by
  intro i latest
  rw [latestReturned, sameReturned] at latest
  obtain ⟨stored, aimed, alone⟩ := settled i latest
  constructor
  · rw [sameMap]
    exact stored
  · rw [aim, latestPosted, sameMap, samePosted]
    exact aimed
  · rw [sameMap]
    exact alone

section Steps

variable [DecidableEq ι]

/-- Posting an alert keeps the states settled exactly where no row still waits for the id of another
alert of its alias. Jira answers that alias with the new alert from then on. -/
theorem Settled.post_iff (settled : Settled alert state)
    (sameBot : ∀ i j, (alert i).botKey = (alert j).botKey) :
    Settled alert (step state (.post i : RunEvent alert)) ↔
      Safe alert state (.post i : RunEvent alert) := by
  by_cases already : i ∈ state.posted
  · refine iff_of_true ?_ fun fresh => absurd already fresh
    rw [step, advance, if_pos already]
    exact settled.congr rfl rfl rfl
  · have posted : step state (.post i : RunEvent alert) =
        { state with
          posted := i :: state.posted, pending := i :: state.pending
          past := state.map :: state.past } := by
      rw [step, advance, if_neg already]
    have latestHere : latestPosted alert (step state (.post i : RunEvent alert))
        (alert i).alertAlias = some i := by
      simp [posted, latestPosted]
    constructor
    · intro after _ row isRow unlinked latest isLatest
      have found : rowOf (alert i) state.map = some row := isRow
      have sameKey := (settled latest (by rwa [latestReturned_shortId isLatest])).alone i
        (latestReturned_shortId isLatest).symm (by rw [found]; rfl)
      have aimed := (after latest (by
        rw [latestReturned_shortId isLatest, posted]
        exact isLatest)).aimed
      rw [← aim_congr sameKey, aim, latestHere, posted, linkOf, found] at aimed
      simpa [unlinked] using aimed.symm
    · intro safe latest isLatest
      rw [posted] at isLatest
      obtain ⟨stored, aimed, alone⟩ := settled latest isLatest
      rw [posted]
      refine ⟨stored, ?_, alone⟩
      by_cases sameAlias : (alert i).alertAlias = (alert latest).alertAlias
      · cases linked : linkOf (alert latest) state.map with
        | some id =>
          rw [aim, linked, Option.some_or] at aimed ⊢
          exact aimed
        | none =>
          have sameKey : (alert i).key = (alert latest).key :=
            Prod.ext (congrArg strip (sameBot i latest)) sameAlias
          obtain ⟨row, found⟩ := Option.isSome_iff_exists.mp stored
          have unlinked : row.jiraAlertId = none := by
            rw [linkOf, found] at linked
            exact linked
          have same := safe already row ((rowOf_congr sameKey).trans found) unlinked latest
            (by rw [shortId_of_key sameKey]; exact isLatest)
          simp [aim, linked, latestPosted, sameAlias, same]
      · simpa [aim, latestPosted, sameAlias] using aimed

omit [DecidableEq ι] in
/-- A call that returns leaves its short id to its alert exactly where the alert is recordable. -/
theorem Settled.returned_iff (settled : Settled alert state) {other : RunState ι}
    (rows : ∀ j, (rowOf (alert j) other.map).isSome = true ↔
      (rowOf (alert j) state.map).isSome = true ∨
        Named (alert i) ∧ (alert j).key = (alert i).key)
    (links : ∀ j, linkOf (alert j) other.map = linkOf (alert j) state.map)
    (samePosted : other.posted = state.posted)
    (returned : other.returned = i :: state.returned) :
    Settled alert other ↔ Recordable alert state i := by
  have aims (j : ι) : aim alert other j = aim alert state j := by
    rw [aim, aim, links, latestPosted, latestPosted, samePosted]
  have latestIs (shortId : Text) : latestReturned alert other shortId =
      if (alert i).shortId.text = shortId then some i
      else latestReturned alert state shortId := by
    rw [latestReturned, returned]
    split
    · rename_i same
      exact List.find?_cons_of_pos (by simp [same])
    · rename_i different
      exact List.find?_cons_of_neg (by simp [different])
  constructor
  · intro after
    obtain ⟨stored, aimed, alone⟩ := after i (by rw [latestIs, if_pos rfl])
    constructor
    · exact ((rows i).mp stored).elim Or.inr fun named => Or.inl named.1
    · rw [← aims]
      exact aimed
    · exact fun j sameShort isStored => alone j sameShort ((rows j).mpr (Or.inl isStored))
  · rintro ⟨written, aimed, alone⟩ latest isLatest
    rw [latestIs] at isLatest
    split at isLatest
    · obtain rfl := Option.some.inj isLatest
      constructor
      · exact (rows i).mpr (written.elim (fun named => Or.inr ⟨named, rfl⟩) Or.inl)
      · rw [aims]
        exact aimed
      · intro j sameShort isStored
        exact ((rows j).mp isStored).elim (alone j sameShort) fun own => own.2
    · rename_i different
      obtain ⟨stored, aimed, alone⟩ := settled latest isLatest
      constructor
      · exact (rows latest).mpr (Or.inl stored)
      · rw [aims]
        exact aimed
      · intro j sameShort isStored
        rcases (rows j).mp isStored with before | ⟨_, own⟩
        · exact alone j sameShort before
        · exact absurd ((shortId_of_key own).symm.trans sameShort) different

/-- Recording an alert keeps the states settled exactly where it is safe: it returns, and is
recordable then, or its transaction fails. -/
theorem Settled.record_iff (settled : Settled alert state) (commits : Bool) :
    Settled alert (step state (.record i commits : RunEvent alert)) ↔
      Safe alert state (.record i commits : RunEvent alert) := by
  rw [step, advance]
  by_cases isPending : i ∈ state.pending
  · rw [if_pos isPending]
    dsimp only
    rw [upsertPendingRow_alert]
    have returns : Safe alert state (.record i commits : RunEvent alert) ↔
        (commits = true ∨ ¬ Named (alert i) → Recordable alert state i) :=
      ⟨fun safe => safe isPending, fun recordable _ => recordable⟩
    rw [returns]
    by_cases named : Named (alert i)
    · rw [if_pos (show NonBlank _ ∧ NonBlank _ from named)]
      cases commits with
      | true =>
        rw [if_pos rfl]
        simp only [true_or, true_imp_iff]
        have rowIs (j : ι) := rowOf_write (j := j) (row_free (alert i) state.map) (i := i) rfl
        refine settled.returned_iff ?_ ?_ rfl rfl
        · intro j
          rw [rowIs]
          split <;> simp [*]
        · intro j
          rw [linkOf, rowIs]
          split
          · rename_i same
            exact linkOf_congr same.symm
          · rfl
      | false =>
        refine iff_of_true (settled.congr rfl rfl rfl) ?_
        simp [named]
    · rw [if_neg (show ¬ (NonBlank _ ∧ NonBlank _) from named)]
      simp only [named, not_false_eq_true, or_true, true_imp_iff]
      exact settled.returned_iff (fun j => by simp [named]) (fun j => rfl) rfl rfl
  · rw [if_neg isPending]
    exact iff_of_true (settled.congr rfl rfl rfl) fun pending => absurd pending isPending

/-- A webhook that is no Create of a stored row leaves the table as it is. -/
theorem Consistent.webhook_idle (consistent : Consistent alert state)
    {delivery : Delivery (alert i)} {lag : Nat}
    (idle : i ∈ state.posted → IsCreate i (.webhook i delivery lag : RunEvent alert) →
      rowOf (alert i) state.map = none) :
    (AlertRuns.step state (.webhook i delivery lag : RunEvent alert)).map = state.map := by
  rw [AlertRuns.step, advance]
  split
  · rename_i isPosted
    split
    · rename_i stored
      rcases consistent.stored_links stored with rfl | ⟨create, row, _, found, _⟩
      · rfl
      · have absent := idle isPosted ⟨rfl, create⟩
        rw [rowOf, found] at absent
        simp at absent
    · rfl
    · rfl
  · rfl

/-- A webhook posts nothing and returns nothing. -/
theorem step_webhook_other (state : RunState ι) (delivery : Delivery (alert i)) (lag : Nat) :
    (step state (.webhook i delivery lag : RunEvent alert)).posted = state.posted ∧
      (step state (.webhook i delivery lag : RunEvent alert)).returned = state.returned := by
  rw [step, advance]
  split
  · split <;> exact ⟨rfl, rfl⟩
  · exact ⟨rfl, rfl⟩

/-- A Create of a stored row keeps the states settled exactly where the short id stands for its
alert. It gives the row the alert's own Jira id, whatever the row led to before. -/
theorem Consistent.create_iff (consistent : Consistent alert state) (apart : IdsApart alert)
    (settled : Settled alert state) {delivery : Delivery (alert i)} {lag : Nat}
    (isPosted : i ∈ state.posted)
    (isCreate : IsCreate i (.webhook i delivery lag : RunEvent alert))
    (found : rowOf (alert i) state.map = some row) :
    Settled alert (AlertRuns.step state (.webhook i delivery lag : RunEvent alert)) ↔
      Fits alert state i := by
  have free := consistent.free_link apart found
  have stepped : AlertRuns.step state (.webhook i delivery lag : RunEvent alert) =
      { state with
        map := state.map.write { row with jiraAlertId := some (alert i).jiraId.text } free
        past := state.map :: state.past } := by
    rw [AlertRuns.step, advance, if_pos isPosted,
      consistent.create_handled apart isCreate.2.1 isCreate.2.2 lag found]
  have rowIs (j : ι) := rowOf_write (i := i) (j := j) free (consistent.rowOf_facts found).2.1
  rw [stepped]
  constructor
  · intro after latest isLatest
    have isOwn : latestReturned alert state (alert latest).shortId.text = some latest := by
      rwa [latestReturned_shortId isLatest]
    have sameKey := (settled latest isOwn).alone i (latestReturned_shortId isLatest).symm
      (by rw [found]; rfl)
    have aimed := (after latest isOwn).aimed
    rw [aim, linkOf, rowIs, if_pos sameKey.symm] at aimed
    exact (Option.some.inj aimed).symm
  · intro fits latest isLatest
    obtain ⟨stored, aimed, alone⟩ := settled latest isLatest
    have rows (j : ι) : (rowOf (alert j) (state.map.write _ free)).isSome = true ↔
        (rowOf (alert j) state.map).isSome = true := by
      rw [rowIs]
      split
      · rename_i same
        rw [rowOf_congr same, found]
        rfl
      · rfl
    refine ⟨(rows latest).mpr stored, ?_, fun j same isStored =>
      alone j same ((rows j).mp isStored)⟩
    rw [aim, linkOf, rowIs]
    split
    · rename_i same
      have sameId := fits latest (by rw [← shortId_of_key same]; exact isLatest)
      rw [sameId]
      rfl
    · exact aimed

/-- A webhook keeps the states settled exactly where it is safe. The cases are a Create of a stored
row and every other webhook. -/
theorem Consistent.webhook_iff (consistent : Consistent alert state) (apart : IdsApart alert)
    (settled : Settled alert state) (delivery : Delivery (alert i)) (lag : Nat) :
    Settled alert (AlertRuns.step state (.webhook i delivery lag : RunEvent alert)) ↔
      Safe alert state (.webhook i delivery lag : RunEvent alert) := by
  by_cases links : i ∈ state.posted ∧
      IsCreate i (.webhook i delivery lag : RunEvent alert) ∧
        (rowOf (alert i) state.map).isSome = true
  · obtain ⟨isPosted, isCreate, isStored⟩ := links
    obtain ⟨row, found⟩ := Option.isSome_iff_exists.mp isStored
    rw [consistent.create_iff apart settled isPosted isCreate found]
    exact ⟨fun fits _ _ _ => fits, fun safe => safe isPosted isCreate isStored⟩
  · refine iff_of_true ?_ fun isPosted isCreate isStored =>
      absurd ⟨isPosted, isCreate, isStored⟩ links
    obtain ⟨samePosted, sameReturned⟩ := step_webhook_other state delivery lag
    refine settled.congr (consistent.webhook_idle fun isPosted isCreate => ?_) samePosted
      sameReturned
    rw [← Option.not_isSome_iff_eq_none]
    exact fun isStored => links ⟨isPosted, isCreate, isStored⟩

/-- In every run of the alerts of a bot, acknowledge commands act on the alert returned last with
their short id all along exactly if every step is safe.

Proof: in the consistent states commands act rightly exactly if the state is settled, and from a
settled state a step leads to a settled one exactly if it is safe. So `throughout_iff_guarded`
applies, with these two for its invariant. -/
theorem acks_latest_iff (alert : ι → TriggeredAlert) (bot : Bot) (config : BotConfig)
    (alerts : config.sendAlerts = true) (acknowledges : config.supportsAcknowledge = true)
    (oneBot : ∀ i, (alert i).botKey = bot.botKey) (apart : IdsApart alert)
    (events : List (RunEvent alert)) :
    Throughout step (AcksLatest alert bot config) (.initial .empty) events ↔
      Guarded step (Safe alert) (.initial .empty) events := by
  have sameBot (i j : ι) : (alert i).botKey = (alert j).botKey := (oneBot i).trans (oneBot j).symm
  have settles (state : RunState ι) (event : RunEvent alert)
      (holds : Consistent alert state ∧ Settled alert state) :
      AcksLatest alert bot config (step state event) ↔ Safe alert state event := by
    rw [(holds.1.step event).acksLatest_iff apart oneBot alerts acknowledges]
    cases event with
    | post i => exact holds.2.post_iff sameBot
    | record i commits => exact holds.2.record_iff commits
    | webhook i delivery lag => exact holds.1.webhook_iff apart holds.2 delivery lag
  have initially : Consistent alert (.initial .empty) ∧ Settled alert (.initial .empty) :=
    ⟨consistent_initial, fun i latest => by simp [latestReturned, RunState.initial] at latest⟩
  have kept (state : RunState ι) (event : RunEvent alert)
      (holds : Consistent alert state ∧ Settled alert state) (safe : Safe alert state event) :
      Consistent alert (step state event) ∧ Settled alert (step state event) := by
    refine ⟨holds.1.step event, ?_⟩
    rw [← (holds.1.step event).acksLatest_iff apart oneBot alerts acknowledges]
    exact (settles state event holds).mpr safe
  have implied (state : RunState ι) (holds : Consistent alert state ∧ Settled alert state) :
      AcksLatest alert bot config state :=
    (holds.1.acksLatest_iff apart oneBot alerts acknowledges).mpr holds.2
  exact throughout_iff_guarded kept implied
    (fun state event holds broken acks => broken ((settles state event holds).mp acks)) _ _
    initially

end Steps

section Example

/-- Two alerts of one bot that draw the same short id on two days. -/
def twoDays : Bool → TriggeredAlert
  | false => twoAlerts false
  | true =>
    { twoAlerts false with
      today := "20260102".toList, jiraId := (twoAlerts true).jiraId }

/-- Each alert is triggered and its Create arrives. -/
def twoDaysRun : List (RunEvent twoDays) :=
  [.post false, .record false true, .webhook false (plainDelivery _ "Create".toList) 0,
    .post true, .record true true, .webhook true (plainDelivery _ "Create".toList) 0]

/-- The bot of the alerts. -/
def sreBot : Bot where
  handle := "oncall".toList
  botKey := "sre".toList
  teamDescription := []
  responders := { people := [], teams := [] }
  lookupPlugin := none

/-- The calls of an acknowledgment; no account is found for the person. -/
def ackCalls : AckCalls where
  lookup _ := .raised
  acknowledge := .answered 202 none
  email := { lookup := .raised, search := .raised, mergeCommits := true }
  assign := .raised

/-- With the rows in the order they were stored, the alert of the day before is acknowledged: both
rows have the short id, and the older one is found first. -/
theorem older_alert_acknowledged :
    latestReturned twoDays (run step (.initial .empty) twoDaysRun) "ABCD".toList = some true ∧
      hear fullBot "ack abcd".toList = some (.acknowledge "abcd".toList) ∧
      (acknowledgeAlert asciiRendering .stored sreBot ackCalls 0 "abcd".toList
        (.ofEmail "alice@example.com".toList) (run step (.initial .empty) twoDaysRun).map
          .empty).1.head? = some (.acknowledge (twoDays false).jiraId.text) ∧
      (twoDays false).jiraId.text ≠ (twoDays true).jiraId.text := by
  decide +kernel

/-- Both alerts are triggered before a Create arrives, and those arrive the other way round. -/
def bothAlertsRun : List (RunEvent twoAlerts) :=
  [.post false, .record false true, .post true, .record true true,
    .webhook true (plainDelivery _ "Create".toList) 0,
    .webhook false (plainDelivery _ "Create".toList) 0]

/-- Each short id stands for its own alert all along, as the two were drawn apart. -/
theorem both_alerts_acknowledged : Throughout step (AcksLatest twoAlerts sreBot fullBot)
    (.initial .empty) bothAlertsRun := by
  refine (acks_latest_iff twoAlerts sreBot fullBot rfl rfl (by decide) twoAlerts_idsApart _).mpr
    ⟨?_, ?_, ?_, ?_, ?_, ?_, trivial⟩
  · intro _ row isRow
    cases isRow
  · exact fun _ _ => ⟨Or.inl ⟨by decide, by decide⟩, by decide +kernel, by decide +kernel⟩
  · intro _ row isRow
    cases isRow
  · exact fun _ _ => ⟨Or.inl ⟨by decide, by decide⟩, by decide +kernel, by decide +kernel⟩
  · intro _ _ _ latest isLatest
    revert latest
    decide +kernel
  · intro _ _ _ latest isLatest
    revert latest
    decide +kernel

end Example

end Thaum.Jira.AlertRuns
