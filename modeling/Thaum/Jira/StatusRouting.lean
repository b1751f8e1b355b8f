import Thaum.Jira.AlertRuns

/-!
# Status messages reach the room of their alert

Where the alerts of a bot have aliases of their own and all alerts have Jira ids of
their own, every row belongs to one alert. A webhook that finds a row by the Jira id or
by the alias has found the row of its alert, so what is said goes to the room of the
trigger under the name of its sender.
-/

namespace Thaum.Jira.AlertRuns

open PyText PyJson KeyedRows GuardedRuns

variable {ι : Type} {alert : ι → TriggeredAlert} {posted : List ι} {i : ι}
  {row : JiraAlertMap}

/-- The bots have keys, the rooms ids, and no two alerts share a row or a Jira id. -/
structure Separate (alert : ι → TriggeredAlert) : Prop where
  botKeys : ∀ i, Trimmed (alert i).botKey ∧ (alert i).botKey ≠ []
  rooms : ∀ i, NonBlank (alert i).roomId
  aliases : ∀ i j, (alert i).botKey = (alert j).botKey →
    (alert i).alertAlias = (alert j).alertAlias → i = j
  ids : ∀ i j, (alert i).jiraId.text = (alert j).jiraId.text → i = j

/-- No two alerts share a row. -/
theorem Separate.eq_of_key (separate : Separate alert) {i j : ι}
    (same : (alert i).key = (alert j).key) : i = j := by
  have sameBot : strip (alert i).botKey = strip (alert j).botKey := congrArg Prod.fst same
  rw [(separate.botKeys i).1, (separate.botKeys j).1] at sameBot
  exact separate.aliases i j sameBot (congrArg Prod.snd same)

/-- The room and sender recorded for an alert. -/
def destination (alert : TriggeredAlert) : Text × Text :=
  (strip alert.roomId, senderNameOrDefault alert.senderName)

/-- A sender's name that was completed is not completed again. -/
@[simp] theorem senderNameOrDefault_twice (senderName : Text) :
    senderNameOrDefault (senderNameOrDefault senderName) = senderNameOrDefault senderName := by
  unfold senderNameOrDefault orElse
  by_cases blank : strip senderName = []
  · simp only [blank, if_true]
    decide
  · simp [blank]

/-- A row of the key of an alert leads to the room and sender of the alert, as no other alert has
that key. -/
theorem destination_of_key (separate : Separate alert) (of : RowOf alert posted row)
    (keyed : row.key = (alert i).key) :
    (strip row.roomId, senderNameOrDefault row.senderName) = destination (alert i) := by
  obtain ⟨j, _, sameKey, _, isRoom, isSender⟩ := of.recorded
  obtain rfl := separate.eq_of_key (keyed.symm.trans sameKey)
  rw [destination, isRoom, isSender, strip_strip, senderNameOrDefault_twice]

/-- A row that carries the Jira id of an alert is the row of its key. -/
theorem key_of_id (separate : Separate alert) (of : RowOf alert posted row)
    (linked : row.jiraAlertId = some (alert i).jiraId.text) : row.key = (alert i).key := by
  obtain ⟨j, _, keyed, same⟩ := of.linked _ linked
  obtain rfl := separate.ids i j same
  exact keyed

/-- The room of an alert is not blank. -/
theorem destination_roomed (separate : Separate alert) (i : ι) : (destination (alert i)).1 ≠ [] :=
  separate.rooms i

/-- The room found for an alert is its own, and none is found only before its row is stored. Both
reads, by the Jira id and by the alias, find the row of the alert or nothing. -/
theorem resolveRoom_destination {bot : Bot} (outside : Surroundings) {atId atAlias : AlertMap}
    (separate : Separate alert) (rowsAtId : ∀ row ∈ atId.rows, RowOf alert posted row)
    (rowsAtAlias : ∀ row ∈ atAlias.rows, RowOf alert posted row)
    (toBot : bot.botKey = (alert i).botKey) :
    resolveRoom bot outside (alert i).jiraId.text (alert i).alertAlias atId atAlias =
        destination (alert i) ∨
      (resolveRoom bot outside (alert i).jiraId.text (alert i).alertAlias atId atAlias).1 = [] ∧
        atAlias.row? (alert i).key.1 (alert i).key.2 = none := by
  have hasKey : bot.botKey ≠ [] := toBot.trans_ne (separate.botKeys i).2
  have keyed : strip bot.botKey ≠ [] := by
    rw [toBot, (separate.botKeys i).1]
    exact (separate.botKeys i).2
  have byAlias := mappingForAlias_named atAlias
    ((alert i).alias_trimmed.trans_ne (alert i).alias_nonblank) keyed
  rw [(alert i).alias_trimmed, toBot] at byAlias
  unfold resolveRoom
  cases mapped : mappingForJiraAlertId outside.scan (alert i).jiraId.text bot.botKey atId with
  | some found =>
    obtain ⟨row, stored, linked, _, rfl⟩ := mappingForJiraAlertId_some mapped
    rw [(alert i).jiraId.strip_text] at linked
    have isDestination := destination_of_key separate (rowsAtId row stored)
      (key_of_id separate (rowsAtId row stored) linked)
    have roomed : strip row.roomId ≠ [] :=
      (congrArg Prod.fst isDestination).trans_ne (destination_roomed separate i)
    exact Or.inl (by simp only [roomed, false_and, if_false, isDestination])
  | none =>
    dsimp only
    rw [if_pos ⟨rfl, (alert i).alias_nonblank, hasKey⟩, toBot, byAlias]
    cases stored : atAlias.row? (strip (alert i).botKey) (alert i).alertAlias with
    | none => exact Or.inr ⟨rfl, stored⟩
    | some row =>
      obtain ⟨member, sameBot, sameAlias⟩ := AlertMap.row?_some stored
      exact Or.inl (destination_of_key separate (rowsAtAlias row member)
        (Prod.ext sameBot sameAlias))

variable {state : RunState ι}

/-- A message recorded in a run goes to the room of its alert, under the name of its
sender. -/
def Routed (alert : ι → TriggeredAlert) (message : ι × Said × StatusContext) : Prop :=
  message.2.1.roomId = (destination (alert message.1)).1 ∧
    message.2.2.senderName = (destination (alert message.1)).2 ∧
    message.2.2.senderMention = (destination (alert message.1)).2

/-- Every row is of an alert, and every message has gone where it belongs. -/
structure WellRouted (alert : ι → TriggeredAlert) (state : RunState ι) : Prop where
  consistent : Consistent alert state
  routed : ∀ message ∈ state.said, Routed alert message

/-- What a webhook says goes to the room of its alert, whichever of its two reads has found the
row. -/
theorem Consistent.says_routed (consistent : Consistent alert state) (separate : Separate alert)
    {delivery : Delivery (alert i)} {lag : Nat} {said : Said} {context : StatusContext}
    (speaks : delivery.handled (state.mapAt lag) state.map = .said said context) :
    Routed alert (i, said, context) := by
  by_cases isCreate : delivery.action = "Create".toList
  · rw [Delivery.handled_create isCreate] at speaks
    exact absurd speaks (handleCreate_quiet.1 said context)
  · rw [Delivery.handled_status isCreate] at speaks
    obtain ⟨roomed, isRoom, isSender, isMention⟩ := handleStatus_said speaks
    have rowsNow := consistent.rows _ List.mem_cons_self
    rcases resolveRoom_destination delivery.outside separate
      (consistent.rows _ (mapAt_mem state lag)) rowsNow delivery.toBot with isOwn | ⟨none, _⟩
    · rw [isOwn] at isRoom isSender
      have sender : context.senderName = (destination (alert i)).2 :=
        isSender.trans (senderNameOrDefault_twice _)
      exact ⟨isRoom, sender, isMention.trans sender⟩
    · exact absurd none roomed

/-- No webhook is dropped once the row of its alert is stored: the read by the alias finds it at the
latest. -/
theorem Consistent.not_dropped (consistent : Consistent alert state) (separate : Separate alert)
    (delivery : Delivery (alert i)) (lag : Nat)
    (pending : ((state.mapAt lag).row? (alert i).key.1 (alert i).key.2).isSome = true) :
    delivery.handled (state.mapAt lag) state.map ≠ .dropped := by
  by_cases isCreate : delivery.action = "Create".toList
  · rw [Delivery.handled_create isCreate]
    exact handleCreate_quiet.2
  · rw [Delivery.handled_status isCreate]
    intro dropped
    have roomless := handleStatus_dropped dropped
    have rowsNow := consistent.rows _ List.mem_cons_self
    rcases resolveRoom_destination delivery.outside separate
      (consistent.rows _ (mapAt_mem state lag)) rowsNow delivery.toBot with isOwn | ⟨_, absent⟩
    · rw [isOwn] at roomless
      exact destination_roomed separate i roomless
    · rw [consistent.row_stays absent] at pending
      exact absurd pending (by decide)

section Steps

variable [DecidableEq ι]

/-- Every step keeps the rows to their alerts and adds only messages that go where they belong. -/
theorem WellRouted.step (routed : WellRouted alert state) (separate : Separate alert)
    (event : RunEvent alert) : WellRouted alert (AlertRuns.step state event) where
  consistent := routed.consistent.step event
  routed := by
    cases event with
    | post i =>
      rw [AlertRuns.step, advance]
      split
      · exact routed.routed
      · exact routed.routed
    | record i commits =>
      rw [AlertRuns.step, advance]
      split
      · dsimp only
        split
        · exact routed.routed
        · exact routed.routed
      · exact routed.routed
    | webhook i delivery lag =>
      rw [AlertRuns.step, advance]
      split
      · split
        · exact routed.routed
        · rename_i speaks
          intro message listed
          rcases List.mem_cons.mp listed with rfl | before
          · exact routed.consistent.says_routed separate speaks
          · exact routed.routed message before
        · exact routed.routed
      · exact routed.routed

/-- In every run over alerts that share neither a row nor a Jira id, each status message goes to the
room of its alert under the name of its sender, and no webhook of an alert whose row is stored when
it arrives is dropped.

Proof: the states of a run are consistent and every message said in them is routed, by the step
lemma. In a consistent state a webhook whose row was stored at its first read finds a room. -/
theorem status_routed (alert : ι → TriggeredAlert) (separate : Separate alert)
    (events : List (RunEvent alert)) :
    (∀ message ∈ (run AlertRuns.step (.initial .empty) events).said, Routed alert message) ∧
      ∀ (i : ι) (delivery : Delivery (alert i)) (lag : Nat),
        (((run AlertRuns.step (.initial .empty) events).mapAt lag).row?
            (alert i).key.1 (alert i).key.2).isSome = true →
          delivery.handled ((run AlertRuns.step (.initial .empty) events).mapAt lag)
            (run AlertRuns.step (.initial .empty) events).map ≠ .dropped := by
  have routed : WellRouted alert (run AlertRuns.step (.initial .empty) events) := by
    have always : Guarded AlertRuns.step (fun _ _ => True) (.initial .empty) events :=
      guarded_of_forall (fun _ _ => trivial) _ events
    have initially : WellRouted alert (.initial .empty) :=
      ⟨consistent_initial, by simp [RunState.initial]⟩
    exact invariant_run (fun _ event holds _ => holds.step separate event) _ events initially
      always
  exact ⟨routed.routed, fun i => routed.consistent.not_dropped separate⟩

end Steps

section Example

/-- Two alerts of one bot, from two rooms on one day. -/
def twoAlerts : Bool → TriggeredAlert
  | false =>
    { botKey := "sre".toList, today := "20260101".toList
      shortId := ⟨"ABCD".toList, by decide, by decide⟩
      roomId := "room-1".toList, senderName := "Alice".toList
      jiraId := ⟨"id-1".toList, by decide, by decide⟩ }
  | true =>
    { botKey := "sre".toList, today := "20260101".toList
      shortId := ⟨"WXYZ".toList, by decide, by decide⟩
      roomId := "room-2".toList, senderName := "Bob".toList
      jiraId := ⟨"id-2".toList, by decide, by decide⟩ }

/-- The two alerts share neither a row nor a Jira id. -/
theorem twoAlerts_separate : Separate twoAlerts where
  botKeys := by decide
  rooms := by decide
  aliases := by decide
  ids := by decide

/-- A webhook of an alert for its bot, answered with the sender's name. -/
def plainDelivery (alert : TriggeredAlert) (action : Text) : Delivery alert where
  bot :=
    { handle := [], botKey := alert.botKey, teamDescription := []
      responders := { people := [], teams := [] }, lookupPlugin := none }
  cfg :=
    { statusMentions := true, sendEscalateMsg := false, statusAckTemplate := [],
      statusUnackTemplate := [], statusEscalateTemplate := [], statusAccidentalCloseTemplate := [],
      closeWindow := 600000000 }
  outside :=
    { rendering := asciiRendering, scan := .stored, person := .raised, formatMention := fun _ => []
      render := fun _ context => some context.senderName, createdAt := fun _ => .unknown, now := 0 }
  payload := [("action".toList, .str action), ("alert".toList, .obj
    [("alertId".toList, .str alert.jiraId.text), ("alias".toList, .str alert.alertAlias)])]
  commits := true
  toBot := rfl
  carriesId := rfl
  carriesAlias := rfl

/-- The Create of the second alert arrives, that of the first is lost, and the first is
acknowledged. -/
def acknowledgedRun : List (RunEvent twoAlerts) :=
  [.post false, .record false true, .post true, .record true true,
    .webhook true (plainDelivery _ "Create".toList) 0,
    .webhook false (plainDelivery _ "Acknowledge".toList) 0]

/-- The acknowledgment is said in the first room. -/
theorem acknowledged_in_own_room :
    (∀ message ∈ (run step (.initial .empty) acknowledgedRun).said, Routed twoAlerts message) ∧
      (run step (.initial .empty) acknowledgedRun).said.map (fun message => message.2.1.roomId) =
        ["room-1".toList] :=
  ⟨(status_routed twoAlerts twoAlerts_separate acknowledgedRun).1, by decide +kernel⟩

end Example

end Thaum.Jira.AlertRuns
