import Thaum.Jira.Trigger

/-!
# Status webhooks

A Create webhook links the row of its alias to the Jira id. Every other action looks
for the room and sender of the alert, by the Jira id and then by the alias, and says a
message there. Each lookup is a transaction of its own, so the tables they see are
passed in one by one.

Template rendering, the mention format, the reading of the creation time and the
answer of the identity lookup are passed in with the delivery.
-/

namespace Thaum.Jira

open PyText PyJson KeyedRows Lookup

/-- What the status templates are rendered with. -/
structure StatusContext where
  teamDescription : Text
  senderName : Text
  senderMention : Text
  responderName : Text
  responderMention : Text
deriving DecidableEq

/-- The settings of the plugin for its status messages. -/
structure StatusConfig where
  statusMentions : Bool
  sendEscalateMsg : Bool
  statusAckTemplate : Text
  statusUnackTemplate : Text
  statusEscalateTemplate : Text
  statusAccidentalCloseTemplate : Text
  /-- `status_accidental_close_minutes`, in microseconds. -/
  closeWindow : Int

/-- A call of `bot.say`. -/
structure Said where
  roomId : Text
  text : Text
  markdown : Option Text
deriving DecidableEq

/-- How `_alert_created_at_utc` ends. -/
inductive CreatedAt where
  | raised : CreatedAt
  | unknown : CreatedAt
  | at : (microseconds : Int) → CreatedAt

/-- What a delivery meets outside the plugin; rendering is `none` where it raises. -/
structure Surroundings where
  rendering : Rendering
  scan : Scan JiraAlertMap
  person : LookupAnswer
  formatMention : ThaumPerson → Text
  render : Text → StatusContext → Option Text
  createdAt : Json → CreatedAt
  now : Int

/-- How the handling of a webhook ends. -/
inductive Handled where
  /-- A Create, with the table after it. -/
  | stored : AlertMap → Handled
  /-- A Create whose transaction raises. -/
  | refused : Handled
  /-- Nothing to say. -/
  | silent : Handled
  /-- No room was found. -/
  | dropped : Handled
  | raised : Handled
  /-- A message, with the context it was rendered in. -/
  | said : Said → StatusContext → Handled

variable (bot : Bot) (cfg : StatusConfig) (outside : Surroundings)

/-- `_responder_name_and_person`; `none` where it raises. -/
def responderNameAndPerson (username : Json) : Option (Text × Option ThaumPerson) :=
  match if username.truthy then username else .str [] with
  | .str username =>
    if strip username = [] then some ("Someone".toList, none)
    else if '@' ∈ strip username then
      match bot.lookupPlugin, outside.person with
      | some _, .answered (some person) => some (person.forDisplay, some person)
      | _, _ => some ("Someone".toList, none)
    else some (strip username, none)
  | _ => none

/-- `_status_message_context`; `none` where it raises. -/
def statusMessageContext (senderName : Text) (alert : List (Text × Json)) :
    Option StatusContext :=
  (responderNameAndPerson bot outside (get "username".toList alert)).map fun responder =>
    { teamDescription := bot.teamDescription
      senderName := senderNameOrDefault senderName
      senderMention := senderNameOrDefault senderName
      responderName := responder.1
      responderMention := match responder.2 with
        | some person => if cfg.statusMentions then outside.formatMention person else responder.1
        | none => responder.1 }

/-- `_say_status_message`; `none` where rendering raises. -/
def sayStatusMessage (roomId template : Text) (context : StatusContext) : Option Said :=
  match outside.render template context with
  | none => none
  | some markdown =>
    if cfg.statusMentions && context.responderMention != context.responderName then
      (outside.render template { context with responderMention := context.responderName }).map
        fun text => { roomId, text, markdown := some markdown }
    else some { roomId, text := markdown, markdown := none }

/-- The template of an action, `none` where it is silent or unknown and the second part
`false` where reading the creation time raises. -/
def statusTemplate (action : Text) (alert : List (Text × Json)) : Option Text × Bool :=
  if action = "Acknowledge".toList then (some cfg.statusAckTemplate, true)
  else if action = "UnAcknowledge".toList then (some cfg.statusUnackTemplate, true)
  else if action = "Escalate".toList then
    (if cfg.sendEscalateMsg then some cfg.statusEscalateTemplate else none, true)
  else if action = "Close".toList then
    match outside.createdAt (get "createdAt".toList alert) with
    | .raised => (none, false)
    | .unknown => (none, true)
    | .at created =>
      (if outside.now - created < cfg.closeWindow then some cfg.statusAccidentalCloseTemplate
        else none, true)
  else (none, true)

/-- The room and sender of an alert: those of the row of the Jira id or else those of the
row of the alias. -/
def resolveRoom (jiraAlertId alertAlias : Text) (atId atAlias : AlertMap) : Text × Text :=
  let found := match mappingForJiraAlertId outside.scan jiraAlertId bot.botKey atId with
    | some (_, roomId, _, senderName) => (strip roomId, senderNameOrDefault senderName)
    | none => ([], "Someone".toList)
  if found.1 = [] ∧ alertAlias ≠ [] ∧ bot.botKey ≠ [] then
    match mappingForAlias alertAlias bot.botKey atAlias with
    | some (_, roomId, senderName) => (strip roomId, senderNameOrDefault senderName)
    | none => found
  else found

/-- The Create branch: the fallbacks are read in one transaction and applied in another. -/
def handleCreate (commits : Bool) (jiraAlertId alertAlias : Text) (atRead atApply : AlertMap) :
    Handled :=
  let existing := if alertAlias ≠ [] ∧ bot.botKey ≠ [] then
    mappingForAlias alertAlias bot.botKey atRead else none
  let roomFallback := strip ((existing.map fun row => row.2.1).getD [])
  let senderFallback := strip ((existing.map fun row => row.2.2).getD [])
  if bot.botKey = [] then .silent
  else match applyCreateWebhook commits jiraAlertId bot.botKey alertAlias
      (parseShortIdFromAlias alertAlias) roomFallback senderFallback atApply with
    | some map => .stored map
    | none => .refused

/-- The other branches. -/
def handleStatus (action jiraAlertId alertAlias : Text) (alert : List (Text × Json))
    (atId atAlias : AlertMap) : Handled :=
  if jiraAlertId = [] then .silent
  else
    let found := resolveRoom bot outside jiraAlertId alertAlias atId atAlias
    if found.1 = [] then .dropped
    else match statusMessageContext bot cfg outside found.2 alert with
      | none => .raised
      | some context =>
        match statusTemplate cfg outside action alert with
        | (_, false) => .raised
        | (none, true) => .silent
        | (some template, true) =>
          match sayStatusMessage cfg outside found.1 template context with
          | none => .raised
          | some said => .said said context

/-- `handle_jira_status_webhook`, given the tables its first and its second transaction
see. -/
def handleJiraStatusWebhook (commits : Bool) (payload : List (Text × Json))
    (first second : AlertMap) : Handled :=
  let action := strOrBlank outside.rendering (get "action".toList payload)
  let alert := (get "alert".toList payload).fields?.getD []
  let jiraAlertId := strip (strOrBlank outside.rendering (get "alertId".toList alert))
  let alertAlias := strip (strOrBlank outside.rendering (get "alias".toList alert))
  if action = "Create".toList then
    handleCreate bot commits jiraAlertId alertAlias first second
  else handleStatus bot cfg outside action jiraAlertId alertAlias alert first second

variable {bot cfg outside} {commits : Bool} {jiraAlertId alertAlias action : Text}
  {alert : List (Text × Json)} {atRead atApply map : AlertMap} {row : JiraAlertMap}

/-- Only a Create changes the table. The other branches read it in their own transactions and end in
a message, a drop or an exception, so a run of status deliveries leaves the alert map as it was. -/
theorem handleStatus_not_stored (map : AlertMap) :
    handleStatus bot cfg outside action jiraAlertId alertAlias alert atRead atApply ≠
      .stored map := by
  unfold handleStatus
  split
  · simp
  · dsimp only
    split
    · simp
    · split
      · simp
      · split
        · simp
        · simp
        · split <;> simp

/-- A Create for a stored row links it: once the key and alias are trimmed and the row is found, the
Jira id is written to it, unless the transaction fails or the id stands under another row. -/
theorem handleCreate_linked (named : strip jiraAlertId ≠ []) (keyed : strip bot.botKey ≠ [])
    (aliased : strip alertAlias ≠ [])
    (found : atApply.row? (strip bot.botKey) (strip alertAlias) = some row) :
    handleCreate bot commits jiraAlertId alertAlias atRead atApply =
      match if commits then atApply.write? { row with jiraAlertId := some (strip jiraAlertId) }
        else none with
      | some map => .stored map
      | none => .refused := by
  have notBlank : bot.botKey ≠ [] := by
    intro blank
    exact keyed (by rw [blank]; rfl)
  simp only [handleCreate, notBlank, if_false]
  rw [applyCreateWebhook_linked named keyed aliased found]

/-- A Create whose row is stored at neither of its transactions changes nothing. It is logged and
dropped: nothing buffers the event until the pending row commits. -/
theorem handleCreate_absent (atFirst : atRead.row? (strip bot.botKey) (strip alertAlias) = none)
    (absent : atApply.row? (strip bot.botKey) (strip alertAlias) = none)
    (stored : handleCreate bot commits jiraAlertId alertAlias atRead atApply = .stored map) :
    map = atApply := by
  have nothing : mappingForAlias alertAlias bot.botKey atRead = none := by
    simp [mappingForAlias, atFirst]
  simp only [handleCreate, nothing, ite_self, Option.map_none, Option.getD_none, strip_nil,
    applyCreateWebhook_absent absent] at stored
  split at stored
  · simp at stored
  · exact (Handled.stored.inj stored).symm

/-- A status message goes to the room it was asked to go to; only its text comes from the
template. -/
theorem sayStatusMessage_room {roomId template : Text} {context : StatusContext} {said : Said}
    (speaks : sayStatusMessage cfg outside roomId template context = some said) :
    said.roomId = roomId := by
  unfold sayStatusMessage at speaks
  split at speaks
  · simp at speaks
  split at speaks
  · obtain ⟨_, _, rfl⟩ := Option.map_eq_some_iff.mp speaks
    rfl
  · obtain rfl := Option.some.inj speaks
    rfl

/-- What is said goes to the room found, under the name of the sender found. The mention in the
message is the same text as the name, since the row keeps no address of the sender. -/
theorem handleStatus_said {said : Said} {context : StatusContext}
    (speaks : handleStatus bot cfg outside action jiraAlertId alertAlias alert atRead atApply =
      .said said context) :
    (resolveRoom bot outside jiraAlertId alertAlias atRead atApply).1 ≠ [] ∧
      said.roomId = (resolveRoom bot outside jiraAlertId alertAlias atRead atApply).1 ∧
      context.senderName = senderNameOrDefault
        (resolveRoom bot outside jiraAlertId alertAlias atRead atApply).2 ∧
      context.senderMention = context.senderName := by
  unfold handleStatus at speaks
  split at speaks
  · simp at speaks
  dsimp only at speaks
  split at speaks
  · simp at speaks
  rename_i roomed
  split at speaks
  · simp at speaks
  rename_i isContext
  split at speaks
  · simp at speaks
  · simp at speaks
  split at speaks
  · simp at speaks
  rename_i isSaid
  obtain ⟨rfl, rfl⟩ := Handled.said.inj speaks
  obtain ⟨responder, _, rfl⟩ := Option.map_eq_some_iff.mp isContext
  exact ⟨roomed, sayStatusMessage_room isSaid, rfl, rfl⟩

/-- A status webhook is dropped only where no room is found, by the Jira id or by the alias. Every
other end of the handling either speaks or raises. -/
theorem handleStatus_dropped
    (dropped : handleStatus bot cfg outside action jiraAlertId alertAlias alert atRead atApply =
      .dropped) : (resolveRoom bot outside jiraAlertId alertAlias atRead atApply).1 = [] := by
  unfold handleStatus at dropped
  split at dropped
  · simp at dropped
  dsimp only at dropped
  split at dropped
  · assumption
  split at dropped
  · simp at dropped
  split at dropped
  · simp at dropped
  · simp at dropped
  split at dropped <;> simp at dropped

/-- A Create says nothing and needs no room. It is the one action whose handling has no message of
its own, since the room has heard of the alert from the command that raised it. -/
theorem handleCreate_quiet :
    (∀ said context, handleCreate bot commits jiraAlertId alertAlias atRead atApply ≠
        .said said context) ∧
      handleCreate bot commits jiraAlertId alertAlias atRead atApply ≠ .dropped := by
  unfold handleCreate
  dsimp only
  split
  · simp
  · split <;> simp

end Thaum.Jira
