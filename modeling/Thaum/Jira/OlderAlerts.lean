import Thaum.Jira.AlertRuns

/-!
# Older alerts in the map

A new alert writes its row under the bot and the alias of the alert, which is made of the
day and of four drawn characters. A row that is stored there already gets the short id,
room and sender of the new alert, and keeps the Jira id of the old one.
-/

namespace Thaum.Jira

open PyText PyJson PyRequests KeyedRows Lookup

/-- Every row with a Jira id is still there as it was. -/
def OlderAlertsKept (before after : AlertMap) : Prop :=
  ∀ row ∈ before.rows, row.jiraAlertId ≠ none → row ∈ after.rows

/-- The call gets to its row: the team lists and the user searches can be read, the POST is
accepted, the bot has a key and the room an id, and the row commits. -/
structure ReachesRow (rendering : Rendering) (cfg : JiraConfig) (bot : Bot)
    (calls : AuxiliaryCalls) (post : Response) (commits : Bool) (roomId : Text)
    (names : TeamNames) : Prop where
  answered : TeamsAnswered rendering cfg calls names
  readable : SearchesReadable rendering cfg bot calls
  accepted : post.ok = true
  keyed : strip bot.botKey ≠ []
  roomed : strip roomId ≠ []
  commits : commits = true

/-- A row with a Jira id that is stored under the key of a new alert has its short id, room
and sender already. -/
def KeyUnspent (map : AlertMap) (key : Text × Text) (shortId roomId senderName : Text) : Prop :=
  ∀ row ∈ map.rows, row.jiraAlertId ≠ none → row.key = key →
    row.shortId = shortId ∧ row.roomId = roomId ∧ row.senderName = senderName

variable {map : AlertMap} {botKey alertAlias roomId senderName : Text}

/-- A pending row keeps the others, and one under its own key that it does not change. So the older
alerts are kept exactly if that row has what is written. -/
theorem write_pendingRow_kept {shortId : Text} :
    OlderAlertsKept map (map.write (pendingRow map botKey alertAlias shortId roomId senderName)
        (pendingRow_free map _ _ _ _ _)) ↔
      KeyUnspent map (botKey, alertAlias) shortId roomId senderName := by
  unfold OlderAlertsKept KeyUnspent
  apply forall₂_congr
  intro row stored
  apply forall_congr'
  intro _
  rw [AlertMap.mem_write, pendingRow_key]
  by_cases sameKey : row.key = (botKey, alertAlias)
  · have found : map.row? botKey alertAlias = some row := by
      rw [← AlertMap.row?_of_mem stored]
      obtain ⟨isBot, isAlias⟩ := Prod.mk.inj sameKey
      rw [isBot, isAlias]
    have written : pendingRow map botKey alertAlias shortId roomId senderName =
        { row with shortId, roomId, senderName } := by
      rw [pendingRow, found]
    rw [written]
    constructor
    · rintro (same | ⟨_, other⟩)
      · intro _
        rw [same]
        exact ⟨rfl, rfl, rfl⟩
      · exact absurd sameKey other
    · intro unspent
      obtain ⟨rfl, rfl, rfl⟩ := unspent sameKey
      exact Or.inl rfl
  · exact iff_of_true (Or.inr ⟨stored, sameKey⟩) fun same => absurd same sameKey

/-- The row of an accepted alert is written where the bot and the room have ids. Elsewhere nothing
is written and every row is kept. -/
theorem recordAlert_written {commits : Bool} {shortId : ShortId} {sender : ThaumPerson}
    {alert : AlertBody} {today : Text} (dated : alert.alertAlias = datedAlias today shortId.text) :
    OlderAlertsKept map
        ((recordAlert commits botKey roomId shortId.text sender alert map).getD map) ↔
      (strip botKey ≠ [] → strip roomId ≠ [] → commits = true →
        KeyUnspent map (strip botKey, datedAlias today shortId.text) shortId.text (strip roomId)
          (senderNameOrDefault sender.forDisplay)) := by
  have kept : OlderAlertsKept map map := fun row stored _ => stored
  have aliasBlank : ¬ strip alert.alertAlias = [] := by
    rw [dated, datedAlias_trimmed]
    exact datedAlias_nonblank _ _
  unfold recordAlert upsertPendingRow
  by_cases keyed : strip botKey = []
  · simp [keyed, kept]
  · by_cases roomed : strip roomId = []
    · simp [roomed, kept]
    · cases commits with
      | false => simp [keyed, roomed, shortId.nonblank, aliasBlank, kept]
      | true =>
        rw [if_neg (by simp [keyed, roomed, shortId.nonblank, aliasBlank]), if_pos rfl,
          Option.getD_some, write_pendingRow_kept, dated, datedAlias_trimmed, shortId.trimmed]
        simp [keyed, roomed]

/-- A call of `trigger_alert` leaves the rows with a Jira id as they are exactly where it does not
get to its row, or the key of the row is not spent.

Proof: the call is followed to its row. Where it raises before, or its POST is refused, the map
stays; where it gets there, the pending row is written, and `write_pendingRow_kept` says what that
changes. -/
theorem older_alerts_kept_iff (rendering : Rendering) (cfg : JiraConfig) (bot : Bot)
    (calls : AuxiliaryCalls) (now : Nat) (post : Response) (commits : Bool)
    (summary roomId : Text) (sender : ThaumPerson) (priority : AlertPriority) (today : Text)
    (shortId : ShortId) (names : TeamNames) (db : IdentityDb) (map : AlertMap) :
    OlderAlertsKept map (triggerAlert rendering cfg bot calls now post commits summary roomId
        sender priority today shortId.text names db map).map ↔
      (ReachesRow rendering cfg bot calls post commits roomId names →
        KeyUnspent map (strip bot.botKey, datedAlias today shortId.text) shortId.text
          (strip roomId) (senderNameOrDefault sender.forDisplay)) := by
  have kept : OlderAlertsKept map map := fun row stored _ => stored
  unfold triggerAlert
  have posted : (prepareAlert rendering cfg bot calls now summary sender priority today
      shortId.text names db).isSome = true ↔ _ := prepareAlert_isSome summary
  cases prepared : prepareAlert rendering cfg bot calls now summary sender priority today
      shortId.text names db with
  | none =>
    rw [prepared] at posted
    refine iff_of_true kept fun reaches => ?_
    cases posted.mpr ⟨reaches.answered, reaches.readable⟩
  | some built =>
    obtain ⟨alert, listed, cache⟩ := built
    obtain ⟨_, _, _, _, _, _, _, body⟩ := prepareAlert_some prepared
    have dated : alert.alertAlias = datedAlias today shortId.text := by
      rw [show alert = _ from body]
      rfl
    rw [prepared] at posted
    obtain ⟨answered, readable⟩ := posted.mp rfl
    dsimp only
    by_cases accepted : post.ok = true
    · rw [if_pos accepted, recordAlert_written dated]
      constructor
      · intro unspent reaches
        exact unspent reaches.keyed reaches.roomed reaches.commits
      · intro unspent keyed roomed commits
        exact unspent ⟨answered, readable, accepted, keyed, roomed, commits⟩
    · rw [if_neg accepted]
      exact iff_of_true kept fun reaches => absurd reaches.accepted accepted

section Example

/-- An alert of the same day, known to Jira. -/
def earlierRow : JiraAlertMap where
  botKey := "sre".toList
  alertAlias := "THAUM-20260101-ABCD".toList
  shortId := "ABCD".toList
  roomId := "room-a".toList
  jiraAlertId := some "jira-1".toList
  senderName := "Alice".toList

/-- The map with it. -/
def earlierMap : AlertMap :=
  AlertMap.empty.write earlierRow (by intro second stored; simp [AlertMap.empty] at stored)

/-- The id that is drawn again. -/
def drawnAgain : ShortId where
  text := earlierRow.shortId
  four := by decide
  drawn := by decide

/-- A bot without responders. -/
def silentBot : Bot := { exampleBot with responders := { people := [], teams := [] } }

/-- An alert from another room that draws the id of an earlier alert on its day takes the
room of the earlier one. -/
theorem repeated_id_overwrites : ¬ ∀ rendering cfg bot calls now post commits summary roomId
    sender priority today (shortId : ShortId) names db map,
    OlderAlertsKept map (triggerAlert rendering cfg bot calls now post commits summary roomId
      sender priority today shortId.text names db map).map := by
  intro always
  have kept := always asciiRendering exampleConfig silentBot unreadableSearch 0
    (.answered 202 none) true "disk full".toList "room-b".toList
    (.ofEmail "bob@example.com".toList) .normal "20260101".toList drawnAgain .empty .empty
    earlierMap earlierRow (by decide) (by decide)
  exact absurd kept (by decide +kernel)

end Example

end Thaum.Jira
