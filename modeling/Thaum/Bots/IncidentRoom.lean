import Thaum.Bots.HighPriority
import Thaum.Library.JsonText
import Thaum.Library.Scripts

/-!
# Incident rooms

A chat event is handled by calls to the platform, to the lookup plugin and to the alert
plugin. Each of them can raise, and the events of a bot are handled side by side.

An alert about an incident is raised once, and only in a room that was made for it, after
everyone was invited and the summary was posted; the room is told the id that the alert
plugin gave. Only a failing invitation is passed over: any other call that raises before the
alert leaves it unraised. What the templates and the calls come to is passed in.
-/

namespace Thaum.Bots

open PyText PyJson Scripts GuardedRuns

/-- The `personId` or the `personEmail` of `memberships.create`. -/
inductive Invitee where
  | personId : Text → Invitee
  | personEmail : Text → Invitee
deriving DecidableEq

/-- What `rooms.get` tells of a room. -/
structure RoomInfo where
  title : Option Text
  creatorId : Text

/-- The calls of the handlers. -/
inductive RoomCall where
  | createRoom : (title : Text) → RoomCall
  | getRoom : (roomId : Text) → RoomCall
  | deleteRoom : (roomId : Text) → RoomCall
  | getMembers : ThaumTeam → RoomCall
  | invite : (roomId : Text) → Invitee → RoomCall
  | say : (roomId text : Text) → RoomCall
  | sendCard : (roomId : Text) → JsonText.Value → RoomCall
  | triggerAlert : TriggerCall → RoomCall
  | acknowledgeAlert : (alertId : Text) → ThaumPerson → RoomCall
  | getPerson : (personId : Text) → RoomCall
  | deleteMessage : (messageId : Text) → RoomCall

/-- What a call returns; `trigger_alert` returns a short id and an alert id. -/
abbrev RoomCall.Answer : RoomCall → Type
  | .createRoom _ => Text
  | .getRoom _ => RoomInfo
  | .getMembers _ => List ThaumPerson
  | .triggerAlert _ => Text × Option Text
  | .getPerson _ => ThaumPerson
  | _ => Unit

/-- What a handler does, as its calls. -/
abbrev RoomScript (ρ : Type) : Type := Script RoomCall RoomCall.Answer ρ

/-- A call of a handler and what it came to. -/
abbrev RoomEvent : Type := Event RoomCall RoomCall.Answer

/-- A call of a handler. -/
def ask (c : RoomCall) : RoomScript (Option c.Answer) := .perform c

/-- What an incident room is made for, and the date of its title. -/
structure Incident where
  summary : Json
  speaker : ThaumPerson
  priority : AlertPriority
  date : Text

/-- What the templates of a bot come to, `none` where that raises, and a value in an
f-string. -/
structure Templates where
  render : (template : Text) → Incident → Option Text
  formatted : Json → Text

/-- The bot as its handlers see it; `prompt_card` and `usage` are rendered by other functions
and are `none` where these raise. -/
structure RoomBot where
  config : BotConfig
  handle : Text
  pluginName : Text
  meId : Text
  responders : RespondersList
  roomTitleTemplate : Text
  customerServiceMessageTemplate : Text
  promptCard : (defaultHighPriority : Bool) → Option JsonText.Value
  usage : Option Text

/-- An event that a handler is called for: a message that is for the bot, or a submission. -/
inductive Handled where
  | message (text roomId : Text) (person : ThaumPerson) (date : Text) : Handled
  | submission (inputs : List (Text × Json)) (personId : Text) (messageId : Option Text)
    (date : Text) : Handled

/-- `get_responders`, from the people and teams that are left. -/
def getResponders (people : List ThaumPerson) :
    List ThaumTeam → RoomScript (Option (List ThaumPerson))
  | [] => .done (some people)
  | team :: teams =>
    (ask (.getMembers team)).andThen fun members =>
      getResponders (people ++ members) teams

/-- `say` of one text after the other. -/
def sayAll (roomId : Text) : List Text → RoomScript (Option Unit)
  | [] => .done (some ())
  | text :: texts => (ask (.say roomId text)).andThen fun _ => sayAll roomId texts

/-- `delete_message`, which catches what raises. -/
def deleteMessage (messageId : Text) : RoomScript Unit :=
  (ask (.deleteMessage messageId)).bind fun _ => .done ()

/-- The message of a submitted card is deleted, where it is known. -/
def deleteCard : (messageId : Option Text) → RoomScript Unit
  | none | some [] => .done ()
  | some messageId => deleteMessage messageId

/-- `room_title`. -/
def getRoomTitle (roomId : Text) : RoomScript Text :=
  (ask (.getRoom roomId)).bind fun
    | none => .done roomId
    | some room => .done (orElse (strip (room.title.getD [])) roomId)

/-- `trigger_alert`, and what the room is told with the short id. -/
def alertAndTell (announcement : Text → Option Text) (call : TriggerCall) :
    RoomScript (Option Unit) :=
  (ask (.triggerAlert call)).andThen fun (shortId, _) =>
    sayAll call.roomId (announcement shortId).toList

/-- What a new room is told about its alert. -/
def incidentAnnouncement (shortId : Text) : Option Text :=
  if shortId = [] then none else some ("Alert sent: ".toList ++ shortId)

/-- What a room is told about an alert without an incident. -/
def pageAnnouncement (shortId : Text) : Option Text :=
  if shortId = [] then some "Alert sent.".toList
  else some ("Alert sent. Tracking ID: **".toList ++ shortId ++ "**".toList)

namespace RoomBot

variable (bot : RoomBot) (templates : Templates)

/-- How a member is invited: under the id that the platform knows, or by email. -/
def invitee (member : ThaumPerson) : Invitee :=
  let pid := (member.platformIds.lookup bot.pluginName).getD []
  if pid = [] then .personEmail member.email else .personId pid

/-- `add_members`, which goes on after an invitation that raises. -/
def addMembers (roomId : Text) : List ThaumPerson → RoomScript Unit
  | [] => .done ()
  | member :: members =>
    (ask (.invite roomId (bot.invitee member))).bind fun _ => addMembers roomId members

/-- `_render_customer_service_message`. -/
def renderCustomerServiceMessage (incident : Incident) : Text :=
  if strip bot.customerServiceMessageTemplate = [] then []
  else ((templates.render bot.customerServiceMessageTemplate incident).map strip).getD []

/-- What a new room is told before the alert. -/
def messages (incident : Incident) : List Text :=
  let customerServiceMessage := bot.renderCustomerServiceMessage templates incident
  (if customerServiceMessage = [] then [] else [customerServiceMessage]) ++
    ["**Summary:** ".toList ++ templates.formatted incident.summary]

/-- `create_incident_room` from the new room on. -/
def fillRoom (roomId : Text) (incident : Incident) : RoomScript (Option Text) :=
  (getResponders bot.responders.people bot.responders.teams).andThen fun responders =>
    (bot.addMembers roomId (incident.speaker :: responders)).bind fun _ =>
      (sayAll roomId (bot.messages templates incident)).andThen fun _ =>
        (alertAndTell incidentAnnouncement
          { summary := incident.summary, roomId, sender := incident.speaker
            priority := incident.priority }).andThen fun _ => .done (some roomId)

/-- `create_incident_room`, which returns nothing where a call raises. -/
def createIncidentRoom (incident : Incident) : RoomScript (Option Text) :=
  if sliceable incident.summary then
    match templates.render bot.roomTitleTemplate incident with
    | none => .done none
    | some title =>
      (ask (.createRoom title)).andThen fun roomId =>
        bot.fillRoom templates roomId incident
  else .done none

/-- The `except` clause of `delete_room`. -/
def deletionEnded (roomId : Text) : Option Unit → RoomScript (Option Unit)
  | none => ask (.say roomId "Critical failure during room deletion.".toList)
  | some _ => .done (some ())

/-- `delete_room`, in a room of the platform. -/
def deleteRoom (roomId : Text) : RoomScript (Option Unit) :=
  let denied (room : RoomInfo) : Text :=
    "Access Denied: ".toList ++ bot.handle ++ " did not create room '".toList ++
      room.title.getD "None".toList ++ ['\'']
  ((ask (.getRoom roomId)).andThen fun room =>
      if room.creatorId = bot.meId then ask (.deleteRoom roomId)
      else ask (.say roomId (denied room))).bind (deletionEnded roomId)

/-- `handle_alert`, where it is not refused. -/
def handleAlert (roomId : Text) (sender : ThaumPerson) (priority : AlertPriority)
    (message : Text) : RoomScript (Option Unit) :=
  (getRoomTitle roomId).bind fun title =>
    alertAndTell pageAnnouncement
      { summary := .str (alertMessage sender title message), roomId, sender, priority }

/-- What the handler of a command does. -/
def carryOut (roomId : Text) (person : ThaumPerson) (date : Text) :
    Command → RoomScript Unit
  | .incident priority summary =>
    if summary = [] then
      match bot.promptCard (decide (priority = .high)) with
      | none => .done ()
      | some card => (ask (.sendCard roomId card)).bind fun _ => .done ()
    else
      (bot.createIncidentRoom templates
        { summary := .str summary, speaker := person, priority, date }).bind fun _ => .done ()
  | .alert priority message =>
    (handleAlert roomId person priority message).bind fun _ => .done ()
  | .highPriorityRefused =>
    (sayAll roomId [("High priority `alert!` is not enabled for this bot. " ++
      "Use `alert` instead.").toList]).bind fun _ => .done ()
  | .acknowledge alertId =>
    (ask (.acknowledgeAlert alertId person)).bind fun _ => .done ()
  | .implode => (bot.deleteRoom roomId).bind fun _ => .done ()
  | .usage =>
    match bot.usage with
    | none => .done ()
    | some text => (sayAll roomId [text]).bind fun _ => .done ()
  | .unknown command =>
    (sayAll roomId ["Unknown command ".toList ++ command ++ ". Please use @".toList ++
      bot.handle ++ " usage to see a list of commands".toList]).bind fun _ => .done ()

/-- `handle_actions`. -/
def handleActions (inputs : List (Text × Json)) (personId : Text) (messageId : Option Text)
    (date : Text) : RoomScript Unit :=
  if isText "submit_incident".toList (get "action".toList inputs) then
    match cardSummary inputs with
    | none => .done ()
    | some summary =>
      (ask (.getPerson personId)).bind fun
        | none => .done ()
        | some speaker =>
          (bot.createIncidentRoom templates
            { summary, speaker, priority := cardPriority inputs, date }).bind fun _ =>
              deleteCard messageId
  else .done ()

/-- What `handle_event` does once an event is known to be for the bot. -/
def handleEvent : Handled → RoomScript Unit
  | .message text roomId person date =>
    match hear bot.config text with
    | none => .done ()
    | some command => bot.carryOut templates roomId person date command
  | .submission inputs personId messageId date =>
    bot.handleActions templates inputs personId messageId date

end RoomBot

/-- Teams that told their members. -/
def asked (teams : List ThaumTeam) (lists : List (List ThaumPerson)) : List RoomEvent :=
  List.zipWith (fun team members => ⟨.getMembers team, some members⟩) teams lists

/-- What was said in a room. -/
def told (roomId : Text) (texts : List Text) : List RoomEvent :=
  texts.map fun text => ⟨.say roomId text, some ()⟩

/-- What an alert is followed by: the room is told its id, where the alert plugin gave one. -/
def Announced (announcement : Text → Option Text) (call : TriggerCall)
    (answer : Option (Text × Option Text)) (events : List RoomEvent) : Prop :=
  events = [] ∨ ∃ shortId alertId text outcome, answer = some (shortId, alertId) ∧
    announcement shortId = some text ∧ events = [⟨.say call.roomId text, outcome⟩]

/-- What goes before the alert of an incident: its room was made, the teams told their members,
the speaker and the responders were invited, and the room was told what the incident is. -/
def RoomPrepared (bot : RoomBot) (templates : Templates) (incident : Incident)
    (events : List RoomEvent) (call : TriggerCall) : Prop :=
  ∃ title roomId lists invitations,
    templates.render bot.roomTitleTemplate incident = some title ∧
    lists.length = bot.responders.teams.length ∧
    invitations.map Sigma.fst =
      (incident.speaker :: (bot.responders.people ++ lists.flatten)).map
        (fun member => RoomCall.invite roomId (bot.invitee member)) ∧
    events = ⟨.createRoom title, some roomId⟩ ::
      (asked bot.responders.teams lists ++
        (invitations ++ told roomId (bot.messages templates incident))) ∧
    call = ⟨incident.summary, roomId, incident.speaker, incident.priority⟩

/-- What goes before an alert: the handling of an incident, or looking up the room's title. -/
inductive Prepared (bot : RoomBot) (templates : Templates) :
    Handled → List RoomEvent → TriggerCall → Prop where
  | heard {text roomId summary date : Text} {person : ThaumPerson} {priority : AlertPriority}
      {events : List RoomEvent} {call : TriggerCall}
      (isIncident : hear bot.config text = some (.incident priority summary))
      (summarised : summary ≠ [])
      (room : RoomPrepared bot templates ⟨.str summary, person, priority, date⟩ events call) :
      Prepared bot templates (.message text roomId person date) events call
  | submitted {inputs : List (Text × Json)} {personId date : Text} {messageId : Option Text}
      {summary : Json} {speaker : ThaumPerson} {events : List RoomEvent} {call : TriggerCall}
      (isSubmission : isText "submit_incident".toList (get "action".toList inputs) = true)
      (summarised : cardSummary inputs = some summary)
      (room : RoomPrepared bot templates ⟨summary, speaker, cardPriority inputs, date⟩ events
        call) :
      Prepared bot templates (.submission inputs personId messageId date)
        (⟨.getPerson personId, some speaker⟩ :: events) call
  | paged {text roomId date message : Text} {person : ThaumPerson} {priority : AlertPriority}
      (isPage : hear bot.config text = some (.alert priority message))
      (title : Text) (room : Option RoomInfo)
      (titled : Runs (getRoomTitle roomId) [⟨.getRoom roomId, room⟩] (.done title)) :
      Prepared bot templates (.message text roomId person date) [⟨.getRoom roomId, room⟩]
        ⟨.str (alertMessage person title message), roomId, person, priority⟩

/-- What the room is told about the alert of an event. -/
def Handled.announcement (config : BotConfig) : Handled → Text → Option Text
  | .message text _ _ _ =>
    match hear config text with
    | some (.alert _ _) => pageAnnouncement
    | _ => incidentAnnouncement
  | .submission _ _ _ _ => incidentAnnouncement

/-- No call but an invitation may raise before an alert. -/
def Blocking (call : RoomCall) : Prop := ∀ roomId invitee, call ≠ .invite roomId invitee

/-- The event asks for an alert, with a title that can be rendered where it is for a room. -/
def AsksForAlert (bot : RoomBot) (templates : Templates) : Handled → Prop
  | .message text _ person date =>
    match hear bot.config text with
    | some (.incident priority summary) =>
      summary ≠ [] ∧ (templates.render bot.roomTitleTemplate
        ⟨.str summary, person, priority, date⟩).isSome = true
    | some (.alert _ _) => True
    | _ => False
  | .submission inputs _ _ date =>
    isText "submit_incident".toList (get "action".toList inputs) = true ∧
      ∃ summary, cardSummary inputs = some summary ∧ sliceable summary = true ∧
        ∀ speaker, (templates.render bot.roomTitleTemplate
          ⟨summary, speaker, cardPriority inputs, date⟩).isSome = true

/-- The alert was raised, or a call raised that no alert is raised after. -/
def AlertedOrBlocked (events : List RoomEvent) : Prop :=
  (∃ call answer, ⟨.triggerAlert call, answer⟩ ∈ events) ∨
    ∃ event ∈ events, event.2 = none ∧ Blocking event.1

/-- A message that is deleted. -/
def IsDeletion (event : RoomEvent) : Prop := ∃ messageId, event.1 = .deleteMessage messageId

section Scripts

variable {bot : RoomBot} {templates : Templates} {roomId : Text} {texts : List Text}
  {people members result : List ThaumPerson} {teams : List ThaumTeam}
  {events : List RoomEvent} {incident : Incident}

/-- A single call keeps to itself. -/
theorem ask_keeps (c : RoomCall) : (ask c).KeepsTo (· = c) := Script.keepsTo_perform.mpr rfl

/-- Getting the responders only asks teams for their members. -/
theorem getResponders_keeps :
    (getResponders people teams).KeepsTo fun call => ∃ team, call = .getMembers team := by
  induction teams generalizing people with
  | nil => trivial
  | cons team teams inductionHypothesis =>
    exact (Script.keepsTo_perform.mpr ⟨team, rfl⟩).andThen fun _ => inductionHypothesis

/-- Where it has ended with a list, every team has told its members, and the list has the people
first and then the members in the order of the teams. -/
theorem getResponders_done
    (isRun : Runs (getResponders people teams) events (.done (some result))) :
    ∃ lists : List (List ThaumPerson), lists.length = teams.length ∧ events = asked teams lists ∧
      result = people ++ lists.flatten := by
  induction teams generalizing people events with
  | nil =>
    obtain ⟨rfl, same⟩ := runs_done.mp isRun
    obtain rfl := Option.some.inj (Script.done.inj same)
    exact ⟨[], rfl, rfl, (List.append_nil _).symm⟩
  | cons team teams inductionHypothesis =>
    rcases runs_andThen_done isRun with ⟨_, impossible⟩ |
      ⟨before, after, told, rfl, answered, onwards⟩
    · cases impossible
    · obtain ⟨lists, length, rfl, rfl⟩ := inductionHypothesis onwards
      rw [runs_perform_done.mp answered]
      exact ⟨told :: lists, by rw [List.length_cons, length, List.length_cons], rfl, by simp⟩

/-- It raises only where a team's call does, and that blocks the alert. -/
theorem getResponders_blames : Blames Blocking (getResponders people teams) := by
  induction teams generalizing people with
  | nil =>
    intro events isRun
    cases (runs_done.mp isRun).2
  | cons team teams inductionHypothesis =>
    exact (blames_perform fun _ _ => nofun).andThen fun _ => inductionHypothesis

/-- Adding members only invites to that room. -/
theorem addMembers_keeps : (bot.addMembers roomId members).KeepsTo
    fun call => ∃ invitee, call = .invite roomId invitee := by
  induction members with
  | nil => trivial
  | cons member members inductionHypothesis =>
    exact (Script.keepsTo_perform.mpr ⟨_, rfl⟩).bind fun _ => inductionHypothesis

/-- Everyone is invited, whichever invitations raise: the loop goes on after each of them. -/
theorem addMembers_done {ended : Unit}
    (isRun : Runs (bot.addMembers roomId members) events (.done ended)) :
    events.map Sigma.fst =
      members.map fun member => RoomCall.invite roomId (bot.invitee member) := by
  induction members generalizing events with
  | nil => rw [(runs_done.mp isRun).1]; rfl
  | cons member members inductionHypothesis =>
    obtain ⟨before, after, outcome, rfl, invited, onwards⟩ := runs_bind_done isRun
    rw [runs_perform_done.mp invited, List.map_append, inductionHypothesis onwards]
    rfl

/-- It only speaks in that room. -/
theorem sayAll_keeps :
    (sayAll roomId texts).KeepsTo fun call => ∃ text, call = .say roomId text := by
  induction texts with
  | nil => trivial
  | cons text texts inductionHypothesis =>
    exact (Script.keepsTo_perform.mpr ⟨text, rfl⟩).andThen fun _ => inductionHypothesis

/-- Where it has ended, all texts were said, in their order. -/
theorem sayAll_done {ended : Unit}
    (isRun : Runs (sayAll roomId texts) events (.done (some ended))) :
    events = told roomId texts := by
  induction texts generalizing events with
  | nil => exact (runs_done.mp isRun).1
  | cons text texts inductionHypothesis =>
    rcases runs_andThen_done isRun with ⟨_, impossible⟩ |
      ⟨before, after, outcome, rfl, answered, onwards⟩
    · cases impossible
    · rw [runs_perform_done.mp answered, inductionHypothesis onwards]
      rfl

/-- It raises only where saying a text does. -/
theorem sayAll_blames : Blames Blocking (sayAll roomId texts) := by
  induction texts with
  | nil =>
    intro events isRun
    cases (runs_done.mp isRun).2
  | cons text texts inductionHypothesis =>
    exact (blames_perform fun _ _ => nofun).andThen fun _ => inductionHypothesis

/-- The alert is raised once, and then the room is told. No call comes before the alert, and none
but that message after it. -/
theorem alertAndTell_alert {call raised : TriggerCall} {announcement : Text → Option Text}
    {next : Option (Text × Option Text) → RoomScript (Option Unit)}
    (isRun : Runs (alertAndTell announcement raised) events (.call (.triggerAlert call) next)) :
    events = [] ∧ call = raised ∧ ∀ answer after rest, Runs (next answer) after rest →
      Announced announcement call answer after := by
  rcases runs_call.mp isRun with ⟨rfl, same⟩ | ⟨answer, after, rfl, onwards⟩
  · obtain ⟨sameCall, sameNext⟩ := Script.call.inj same
    obtain rfl := RoomCall.triggerAlert.inj sameCall
    obtain rfl := eq_of_heq sameNext
    refine ⟨rfl, rfl, ?_⟩
    intro answer after rest isAfter
    cases answer with
    | none => exact Or.inl (runs_done.mp isAfter).1
    | some given =>
      obtain ⟨shortId, alertId⟩ := given
      change Runs (sayAll call.roomId (announcement shortId).toList) after rest at isAfter
      cases announced : announcement shortId with
      | none =>
        rw [announced] at isAfter
        exact Or.inl (runs_done.mp isAfter).1
      | some text =>
        rw [announced] at isAfter
        rcases runs_call.mp isAfter with ⟨nothing, _⟩ | ⟨outcome, later, rfl, ended⟩
        · exact Or.inl nothing
        · refine Or.inr ⟨shortId, alertId, text, outcome, rfl, announced, ?_⟩
          cases outcome with
          | none => rw [(runs_done.mp ended).1]
          | some => rw [(runs_done.mp ended).1]
  · cases answer with
    | none => cases (runs_done.mp onwards).2
    | some given =>
      obtain ⟨_, impossible⟩ := (sayAll_keeps.runs onwards).2.1
      cases impossible

/-- What a handler in a new room has done when it raises the alert.

Proof: the script is taken apart call by call. Everything in front of the alert is of other kinds of
calls and has ended without raising, so each part was done completely. -/
theorem createIncidentRoom_alert {call : TriggerCall}
    {next : Option (Text × Option Text) → RoomScript (Option Text)}
    (isRun : Runs (bot.createIncidentRoom templates incident) events
      (.call (.triggerAlert call) next)) :
    RoomPrepared bot templates incident events call ∧
      ∀ answer after rest, Runs (next answer) after rest →
        Announced incidentAnnouncement call answer after := by
  rw [RoomBot.createIncidentRoom] at isRun
  split at isRun
  · split at isRun
    · cases (runs_done.mp isRun).2
    · rename_i title rendered
      obtain ⟨created, events, roomId, rfl, isCreated, isRun⟩ :=
        runs_andThen_call (ask_keeps (.createRoom title)) (by nofun) isRun
      obtain ⟨askedTeams, events, responders, rfl, areAsked, isRun⟩ :=
        runs_andThen_call getResponders_keeps (by nofun) isRun
      obtain ⟨invitations, events, _, rfl, areInvited, isRun⟩ :=
        runs_bind_call addMembers_keeps (by nofun) isRun
      obtain ⟨said, events, _, rfl, isSaid, isRun⟩ :=
        runs_andThen_call sayAll_keeps (by nofun) isRun
      have quiet (_ : Unit) : (Script.done (some roomId) : RoomScript (Option Text)).KeepsTo
          fun _ => False := trivial
      obtain ⟨next', isRun, goesOn⟩ := runs_andThen_within quiet id isRun
      obtain ⟨rfl, rfl, announces⟩ := alertAndTell_alert isRun
      obtain ⟨lists, length, rfl, rfl⟩ := getResponders_done areAsked
      refine ⟨⟨title, roomId, lists, invitations, rendered, length, addMembers_done areInvited, ?_,
        rfl⟩, ?_⟩
      · rw [runs_perform_done.mp isCreated, sayAll_done isSaid, List.append_nil]
        rfl
      · intro answer after rest isAfter
        obtain ⟨within, beyond, left, rfl, isWithin, nothing⟩ := goesOn answer after rest isAfter
        cases beyond with
        | nil =>
          rw [List.append_nil]
          exact announces answer within left isWithin
        | cons event beyond => exact (nothing event List.mem_cons_self).elim
  · cases (runs_done.mp isRun).2

/-- The title of a room is asked for with one kind of call. -/
theorem getRoomTitle_keeps : (getRoomTitle roomId).KeepsTo (· = .getRoom roomId) :=
  (ask_keeps _).bind fun room => by cases room <;> trivial

/-- It is asked for once, and found or replaced by a default. -/
theorem getRoomTitle_done {title : Text} (isRun : Runs (getRoomTitle roomId) events (.done title)) :
    ∃ room, events = [⟨.getRoom roomId, room⟩] := by
  obtain ⟨before, after, room, rfl, isRoom, ended⟩ := runs_bind_done isRun
  rw [runs_perform_done.mp isRoom]
  cases room with
  | none => exact ⟨none, by rw [(runs_done.mp ended).1, List.append_nil]⟩
  | some room => exact ⟨some room, by rw [(runs_done.mp ended).1, List.append_nil]⟩

/-- A submitted card is at most deleted. -/
theorem deleteCard_keeps {messageId : Option Text} :
    (deleteCard messageId).KeepsTo fun call => ∃ messageId, call = .deleteMessage messageId := by
  rw [deleteCard.eq_def]
  split
  · trivial
  · trivial
  · exact ⟨⟨_, rfl⟩, fun _ => trivial⟩

/-- A call that raises no alert. -/
def Harmless (call : RoomCall) : Prop := ∀ raised, call ≠ .triggerAlert raised

/-- Speaking raises no alert. -/
theorem sayAll_harmless : (sayAll roomId texts).KeepsTo Harmless :=
  sayAll_keeps.mono fun _ ⟨_, isSay⟩ _ => isSay ▸ nofun

/-- Deleting a room raises no alert. -/
theorem deleteRoom_harmless : (bot.deleteRoom roomId).KeepsTo Harmless := by
  refine Script.KeepsTo.bind (Script.KeepsTo.andThen ⟨fun _ => nofun, fun _ => trivial⟩ ?_) ?_
  · intro room
    split
    · exact ⟨fun _ => nofun, fun _ => trivial⟩
    · exact ⟨fun _ => nofun, fun _ => trivial⟩
  · intro result
    cases result with
    | none => exact ⟨fun _ => nofun, fun _ => trivial⟩
    | some => trivial

/-- A script that raises no alert is never about to raise one. -/
theorem harmless_alert {ρ : Type} {script : RoomScript ρ} {call : TriggerCall}
    {next : Option (Text × Option Text) → RoomScript ρ}
    (isRun : Runs script events (.call (.triggerAlert call) next))
    (keeps : script.KeepsTo Harmless) : False :=
  (keeps.runs isRun).2.1 call rfl

/-- Before a handler raises an alert it has prepared it, and after that it tells the room. The cases
are the handlers; those that are not asked for an alert keep to harmless calls. -/
theorem handleEvent_alert {handled : Handled} {call : TriggerCall}
    {next : Option (Text × Option Text) → RoomScript Unit}
    (isRun : Runs (bot.handleEvent templates handled) events (.call (.triggerAlert call) next)) :
    Prepared bot templates handled events call ∧
      ∀ answer after rest, Runs (next answer) after rest →
        ∃ told beyond, after = told ++ beyond ∧
          Announced (handled.announcement bot.config) call answer told ∧
          ∀ event ∈ beyond, IsDeletion event := by
  have quiet {ρ : Type} (_ : ρ) : (.done () : RoomScript Unit).KeepsTo
      fun call => ∃ messageId, call = .deleteMessage messageId := trivial
  cases handled with
  | message text roomId person date =>
    rw [RoomBot.handleEvent] at isRun
    split at isRun
    · cases (runs_done.mp isRun).2
    · rename_i command isCommand
      cases command with
      | incident priority summary =>
        rw [RoomBot.carryOut] at isRun
        split at isRun
        · split at isRun
          · cases (runs_done.mp isRun).2
          · exact (harmless_alert isRun ⟨fun _ => nofun, fun _ => trivial⟩).elim
        · rename_i summarised
          obtain ⟨next', isIncident, goesOn⟩ := runs_bind_within quiet (by nofun) isRun
          obtain ⟨room, announces⟩ := createIncidentRoom_alert isIncident
          refine ⟨.heard isCommand summarised room, ?_⟩
          intro answer after rest isAfter
          obtain ⟨told, beyond, left, rfl, isTold, deletions⟩ := goesOn answer after rest isAfter
          refine ⟨told, beyond, rfl, ?_, deletions⟩
          rw [Handled.announcement, isCommand]
          exact announces answer told left isTold
      | alert priority message =>
        rw [RoomBot.carryOut] at isRun
        obtain ⟨next', isPage, goesOn⟩ := runs_bind_within quiet (by nofun) isRun
        obtain ⟨before, events, title, rfl, titled, isAlert⟩ :=
          runs_bind_call getRoomTitle_keeps (by nofun) isPage
        obtain ⟨rfl, rfl, announces⟩ := alertAndTell_alert isAlert
        obtain ⟨room, rfl⟩ := getRoomTitle_done titled
        refine ⟨.paged isCommand title room titled, ?_⟩
        intro answer after rest isAfter
        obtain ⟨told, beyond, left, rfl, isTold, deletions⟩ := goesOn answer after rest isAfter
        refine ⟨told, beyond, rfl, ?_, deletions⟩
        rw [Handled.announcement, isCommand]
        exact announces answer told left isTold
      | highPriorityRefused =>
        exact (harmless_alert isRun (sayAll_harmless.bind fun _ => trivial)).elim
      | acknowledge alertId =>
        exact (harmless_alert isRun ⟨fun _ => nofun, fun _ => trivial⟩).elim
      | implode => exact (harmless_alert isRun (deleteRoom_harmless.bind fun _ => trivial)).elim
      | usage =>
        rw [RoomBot.carryOut] at isRun
        split at isRun
        · cases (runs_done.mp isRun).2
        · exact (harmless_alert isRun (sayAll_harmless.bind fun _ => trivial)).elim
      | unknown command =>
        exact (harmless_alert isRun (sayAll_harmless.bind fun _ => trivial)).elim
  | submission inputs personId messageId date =>
    change Runs (bot.handleActions templates inputs personId messageId date) _ _ at isRun
    rw [RoomBot.handleActions.eq_def] at isRun
    split at isRun
    · rename_i isSubmission
      split at isRun
      · cases (runs_done.mp isRun).2
      · rename_i summary summarised
        obtain ⟨before, events, person, rfl, isPerson, isHandled⟩ :=
          runs_bind_call (ask_keeps (.getPerson personId)) (by nofun) isRun
        obtain rfl := runs_perform_done.mp isPerson
        cases person with
        | none => cases (runs_done.mp isHandled).2
        | some speaker =>
          obtain ⟨next', isIncident, goesOn⟩ :=
            runs_bind_within (fun _ => deleteCard_keeps) (by nofun) isHandled
          obtain ⟨room, announces⟩ := createIncidentRoom_alert isIncident
          refine ⟨.submitted isSubmission summarised room, ?_⟩
          intro answer after rest isAfter
          obtain ⟨told, beyond, left, rfl, isTold, deletions⟩ := goesOn answer after rest isAfter
          exact ⟨told, beyond, rfl, announces answer told left isTold, deletions⟩
    · cases (runs_done.mp isRun).2

/-- Calls in front leave it as it is. -/
theorem AlertedOrBlocked.append_left {before : List RoomEvent}
    (holds : AlertedOrBlocked events) : AlertedOrBlocked (before ++ events) := by
  rcases holds with ⟨call, answer, listed⟩ | ⟨event, listed, blocked⟩
  · exact Or.inl ⟨call, answer, List.mem_append_right _ listed⟩
  · exact Or.inr ⟨event, List.mem_append_right _ listed, blocked⟩

/-- Calls behind leave it as it is. -/
theorem AlertedOrBlocked.append_right {after : List RoomEvent}
    (holds : AlertedOrBlocked events) : AlertedOrBlocked (events ++ after) := by
  rcases holds with ⟨call, answer, listed⟩ | ⟨event, listed, blocked⟩
  · exact Or.inl ⟨call, answer, List.mem_append_left _ listed⟩
  · exact Or.inr ⟨event, List.mem_append_left _ listed, blocked⟩

/-- Once it has ended the alert was raised. -/
theorem alertAndTell_done {announcement : Text → Option Text} {call : TriggerCall}
    {ended : Option Unit} (isRun : Runs (alertAndTell announcement call) events (.done ended)) :
    AlertedOrBlocked events := by
  rcases runs_call.mp isRun with ⟨_, impossible⟩ | ⟨answer, after, rfl, _⟩
  · cases impossible
  · exact Or.inl ⟨call, answer, List.mem_cons_self⟩

/-- Once it has ended the alert was raised, or one of the calls before it did raise. Rendering the
title and reading the summary cannot have been the reason, as both succeed here. -/
theorem createIncidentRoom_done {ended : Option Text} (readable : sliceable incident.summary = true)
    (titled : (templates.render bot.roomTitleTemplate incident).isSome = true)
    (isRun : Runs (bot.createIncidentRoom templates incident) events (.done ended)) :
    AlertedOrBlocked events := by
  obtain ⟨title, rendered⟩ := Option.isSome_iff_exists.mp titled
  rw [RoomBot.createIncidentRoom, if_pos readable, rendered] at isRun
  rcases runs_andThen_done isRun with ⟨raised, _⟩ | ⟨_, _, roomId, rfl, _, isRun⟩
  · exact Or.inr (blames_perform (fun _ _ => nofun) _ raised)
  refine AlertedOrBlocked.append_left ?_
  rcases runs_andThen_done isRun with ⟨raised, _⟩ | ⟨_, _, _, rfl, _, isRun⟩
  · exact Or.inr (getResponders_blames _ raised)
  refine AlertedOrBlocked.append_left ?_
  obtain ⟨_, _, _, rfl, _, isRun⟩ := runs_bind_done isRun
  refine AlertedOrBlocked.append_left ?_
  rcases runs_andThen_done isRun with ⟨raised, _⟩ | ⟨_, _, _, rfl, _, isRun⟩
  · exact Or.inr (sayAll_blames _ raised)
  refine AlertedOrBlocked.append_left ?_
  rcases runs_andThen_done isRun with ⟨raised, _⟩ | ⟨_, _, _, rfl, alerted, _⟩
  · exact alertAndTell_done raised
  · exact (alertAndTell_done alerted).append_right

/-- A handler that has ended has raised the alert it was asked for, or was blocked. It was asked for
one by a command or by a submission. -/
theorem handleEvent_done {handled : Handled} (asks : AsksForAlert bot templates handled)
    (isRun : Runs (bot.handleEvent templates handled) events (.done ())) :
    AlertedOrBlocked events := by
  cases handled with
  | message text roomId person date =>
    rw [AsksForAlert] at asks
    rw [RoomBot.handleEvent] at isRun
    cases heard : hear bot.config text with
    | none =>
      rw [heard] at asks
      exact asks.elim
    | some command =>
      rw [heard] at asks isRun
      cases command with
      | incident priority summary =>
        obtain ⟨summarised, titled⟩ := asks
        change Runs (bot.carryOut templates roomId person date _) _ _ at isRun
        rw [RoomBot.carryOut, if_neg summarised] at isRun
        obtain ⟨_, _, _, rfl, created, _⟩ := runs_bind_done isRun
        exact (createIncidentRoom_done rfl titled created).append_right
      | alert priority message =>
        obtain ⟨_, _, _, rfl, paged, _⟩ := runs_bind_done isRun
        obtain ⟨_, _, title, rfl, _, alerted⟩ := runs_bind_done paged
        exact (alertAndTell_done alerted).append_left.append_right
      | _ => exact asks.elim
  | submission inputs personId messageId date =>
    obtain ⟨isSubmission, summary, summarised, readable, titled⟩ := asks
    change Runs (bot.handleActions templates inputs personId messageId date) _ _ at isRun
    rw [RoomBot.handleActions, if_pos isSubmission, summarised] at isRun
    obtain ⟨_, _, person, rfl, isPerson, isHandled⟩ := runs_bind_done isRun
    obtain rfl := runs_perform_done.mp isPerson
    cases person with
    | none => exact Or.inr ⟨_, List.mem_cons_self, rfl, fun _ _ => nofun⟩
    | some speaker =>
      obtain ⟨_, _, _, rfl, created, _⟩ := runs_bind_done isHandled
      exact (createIncidentRoom_done readable (titled speaker) created).append_right.append_left

/-- A call that deletes no room. -/
def Sparing (call : RoomCall) : Prop := ∀ roomId, call ≠ .deleteRoom roomId

/-- Speaking deletes no room. -/
theorem sayAll_sparing : (sayAll roomId texts).KeepsTo Sparing :=
  sayAll_keeps.mono fun _ ⟨_, isSay⟩ _ => isSay ▸ nofun

/-- Raising an alert deletes no room. -/
theorem alertAndTell_sparing {announcement : Text → Option Text} {call : TriggerCall} :
    (alertAndTell announcement call).KeepsTo Sparing :=
  ((ask_keeps _).mono fun _ isAlert _ => isAlert ▸ nofun).andThen fun _ => sayAll_sparing

/-- Making a room for an incident deletes none. -/
theorem createIncidentRoom_sparing :
    (bot.createIncidentRoom templates incident).KeepsTo Sparing := by
  rw [RoomBot.createIncidentRoom]
  split
  · split
    · trivial
    · refine ((ask_keeps _).mono fun _ isCreate _ => isCreate ▸ nofun).andThen fun roomId => ?_
      refine (getResponders_keeps.mono fun _ ⟨_, isAsk⟩ _ => isAsk ▸ nofun).andThen fun _ => ?_
      refine (addMembers_keeps.mono fun _ ⟨_, isInvite⟩ _ => isInvite ▸ nofun).bind fun _ => ?_
      exact sayAll_sparing.andThen fun _ => alertAndTell_sparing.andThen fun _ => trivial
  · trivial

/-- Paging deletes no room. -/
theorem handleAlert_sparing {person : ThaumPerson} {priority : AlertPriority} {message : Text} :
    (RoomBot.handleAlert roomId person priority message).KeepsTo Sparing :=
  (getRoomTitle_keeps.mono fun _ isGet _ => isGet ▸ nofun).bind fun _ => alertAndTell_sparing

/-- Only `implode` deletes a room, right after it was told that the bot has made it. -/
def Imploded (bot : RoomBot) (handled : Handled) (roomId : Text) (events : List RoomEvent) : Prop :=
  ∃ text person date room, handled = .message text roomId person date ∧
    hear bot.config text = some .implode ∧ room.creatorId = bot.meId ∧
    events = [⟨.getRoom roomId, some room⟩]

/-- What follows a deletion that raised deletes no room. -/
theorem deletionEnded_sparing (result : Option Unit) :
    (RoomBot.deletionEnded roomId result).KeepsTo Sparing := by
  cases result with
  | none => exact ⟨fun _ => nofun, fun _ => trivial⟩
  | some => trivial

/-- A room is deleted right after the platform told that the bot has made it, and no other room
is. -/
theorem deleteRoom_delete {deleted : Text} {next : Option Unit → RoomScript (Option Unit)}
    (isRun : Runs (bot.deleteRoom roomId) events (.call (.deleteRoom deleted) next)) :
    deleted = roomId ∧ ∃ room : RoomInfo, room.creatorId = bot.meId ∧
      events = [⟨.getRoom roomId, some room⟩] := by
  obtain ⟨next', isDelete, _⟩ :=
    runs_bind_within deletionEnded_sparing (fun sparing => sparing _ rfl) isRun
  obtain ⟨before, events, room, rfl, isRoom, isDelete⟩ :=
    runs_andThen_call (ask_keeps (.getRoom roomId)) (by nofun) isDelete
  rw [runs_perform_done.mp isRoom]
  split at isDelete
  · rename_i own
    rcases runs_call.mp isDelete with ⟨rfl, same⟩ | ⟨_, _, _, ended⟩
    · obtain rfl := RoomCall.deleteRoom.inj (Script.call.inj same).1
      exact ⟨rfl, room, own, rfl⟩
    · cases (runs_done.mp ended).2
  · rcases runs_call.mp isDelete with ⟨_, impossible⟩ | ⟨_, _, _, ended⟩
    · cases impossible
    · cases (runs_done.mp ended).2

/-- A room is deleted by `implode` alone, and only one that the bot made. The other commands and the
submissions keep to calls that delete none. -/
theorem handleEvent_delete {handled : Handled} {deleted : Text}
    {next : Option Unit → RoomScript Unit}
    (isRun : Runs (bot.handleEvent templates handled) events (.call (.deleteRoom deleted) next)) :
    Imploded bot handled deleted events := by
  have spared {script : RoomScript Unit}
      (isRun : Runs script events (.call (.deleteRoom deleted) next))
      (keeps : script.KeepsTo Sparing) : Imploded bot handled deleted events :=
    absurd rfl ((keeps.runs isRun).2.1 deleted)
  cases handled with
  | message text roomId person date =>
    rw [RoomBot.handleEvent] at isRun
    split at isRun
    · cases (runs_done.mp isRun).2
    · rename_i command isCommand
      cases command with
      | incident priority summary =>
        rw [RoomBot.carryOut] at isRun
        split at isRun
        · split at isRun
          · cases (runs_done.mp isRun).2
          · exact spared isRun ⟨fun _ => nofun, fun _ => trivial⟩
        · exact spared isRun (createIncidentRoom_sparing.bind fun _ => trivial)
      | alert priority message => exact spared isRun (handleAlert_sparing.bind fun _ => trivial)
      | highPriorityRefused => exact spared isRun (sayAll_sparing.bind fun _ => trivial)
      | acknowledge alertId => exact spared isRun ⟨fun _ => nofun, fun _ => trivial⟩
      | implode =>
        have quiet (_ : Option Unit) : (.done () : RoomScript Unit).KeepsTo Sparing := trivial
        obtain ⟨next', isDelete, _⟩ := runs_bind_within quiet (fun sparing => sparing _ rfl) isRun
        obtain ⟨rfl, room, own, rfl⟩ := deleteRoom_delete isDelete
        exact ⟨text, person, date, room, rfl, isCommand, own, rfl⟩
      | usage =>
        rw [RoomBot.carryOut] at isRun
        split at isRun
        · cases (runs_done.mp isRun).2
        · exact spared isRun (sayAll_sparing.bind fun _ => trivial)
      | unknown command => exact spared isRun (sayAll_sparing.bind fun _ => trivial)
  | submission inputs personId messageId date =>
    change Runs (bot.handleActions templates inputs personId messageId date) _ _ at isRun
    rw [RoomBot.handleActions.eq_def] at isRun
    split at isRun
    · split at isRun
      · cases (runs_done.mp isRun).2
      · refine spared isRun (Script.KeepsTo.bind ⟨fun _ => nofun, fun _ => trivial⟩ ?_)
        intro person
        cases person with
        | none => trivial
        | some speaker =>
          exact createIncidentRoom_sparing.bind fun _ =>
            deleteCard_keeps.mono fun _ ⟨_, isDeletion⟩ _ => isDeletion ▸ nofun
    · cases (runs_done.mp isRun).2

end Scripts

/-- A submitted card that says emergency. -/
def SaysEmergency : Handled → Prop
  | .submission inputs _ _ _ => isText "true".toList (get "is_emergency".toList inputs) = true
  | .message _ _ _ _ => False

/-- Without high priority a message prepares no alert of that priority, so one that was prepared
comes from a submission that says emergency. -/
theorem Prepared.emergency {bot : RoomBot} {templates : Templates} {handled : Handled}
    {events : List RoomEvent} {call : TriggerCall}
    (prepared : Prepared bot templates handled events call) (off : bot.config.highPriOn = false)
    (isHigh : call.priority = .high) : SaysEmergency handled := by
  cases prepared with
  | @heard _ _ _ _ _ priority _ _ isIncident _ room =>
    obtain ⟨_, _, _, _, _, _, _, _, rfl⟩ := room
    obtain rfl : priority = .high := isHigh
    exact absurd rfl (hear_plain off isIncident)
  | submitted _ _ room =>
    obtain ⟨_, _, _, _, _, _, _, _, rfl⟩ := room
    change cardPriority _ = _ at isHigh
    rw [cardPriority] at isHigh
    split at isHigh
    · assumption
    · cases isHigh
  | @paged _ _ _ _ _ priority isPage =>
    obtain rfl : priority = .high := isHigh
    exact absurd rfl (hear_plain off isPage)

/-- The calls in the log of a bot whose events are handled side by side. An alert was prepared
by the handler that raises it, whatever the others do in between, and its room is told about it
once; without high priority only a submitted card raises one of that priority; a handler that is
asked for an alert and has ended was blocked if it raised none; and only `implode` deletes rooms,
of those that the bot made. -/
structure Orderly {ι : Type} [DecidableEq ι] (bot : RoomBot) (templates : Templates)
    (handled : ι → Handled) (board : Board ι RoomCall RoomCall.Answer Unit) : Prop where
  raised : ∀ i call answer before after,
    board.log = before ++ (i, ⟨.triggerAlert call, answer⟩) :: after →
      Prepared bot templates (handled i) (eventsOf i before) call ∧
        ∃ told beyond, eventsOf i after = told ++ beyond ∧
          Announced ((handled i).announcement bot.config) call answer told ∧
          ∀ event ∈ beyond, IsDeletion event
  gated : bot.config.highPriOn = false → ∀ i call answer,
    (i, ⟨.triggerAlert call, answer⟩) ∈ board.log → call.priority = .high →
      SaysEmergency (handled i)
  ended : ∀ i, AsksForAlert bot templates (handled i) → board.tasks i = .done () →
    AlertedOrBlocked (eventsOf i board.log)
  deleted : ∀ i roomId answer before after,
    board.log = before ++ (i, ⟨.deleteRoom roomId, answer⟩) :: after →
      Imploded bot (handled i) roomId (eventsOf i before)

/-- However the handling of events interleaves and whichever calls raise, the calls are orderly.

Proof: what the log shows of a handler is a run of that handler alone. So each part is a law about
one handler: what comes before an alert and after it, when it has ended without one, and what comes
before the deletion of a room. -/
theorem incident_rooms_orderly {ι : Type} [DecidableEq ι] (bot : RoomBot) (templates : Templates)
    (handled : ι → Handled) (turns : List (Turn ι RoomCall RoomCall.Answer)) :
    Orderly bot templates handled
      (run step (start fun i => bot.handleEvent templates (handled i)) turns) := by
  have logged := logged_run (fun i => bot.handleEvent templates (handled i)) turns
  constructor
  · intro i call answer before after parts
    obtain ⟨next, prepares, goesOn⟩ := logged_at logged parts
    obtain ⟨prepared, announces⟩ := handleEvent_alert prepares
    exact ⟨prepared, announces answer _ _ goesOn⟩
  · intro off i call answer listed isHigh
    obtain ⟨before, after, parts⟩ := List.append_of_mem listed
    obtain ⟨next, prepares, _⟩ := logged_at logged parts
    exact (handleEvent_alert prepares).1.emergency off isHigh
  · intro i asks isDone
    have isRun := logged i
    rw [isDone] at isRun
    exact handleEvent_done asks isRun
  · intro i roomId answer before after parts
    obtain ⟨next, deletes, _⟩ := logged_at logged parts
    exact handleEvent_delete deletes

section Example

/-- A bot with one person and one team to invite. -/
def opsBot : RoomBot where
  config := plainBot
  handle := "ops".toList
  pluginName := "webex".toList
  meId := "me".toList
  responders := { people := [requester], teams := [.ofId "SRE".toList "t".toList 0] }
  roomTitleTemplate := "Incident: {summary}".toList
  customerServiceMessageTemplate := []
  promptCard _ := none
  usage := none

def plainTemplates : Templates where
  render template _ := some template
  formatted
    | .str s => s
    | _ => []

/-- The platform makes the room, refuses every invitation and posts; the alert is taken. -/
def refusing : (c : RoomCall) → Option c.Answer
  | .createRoom _ => some "room".toList
  | .getMembers _ => some [requester]
  | .triggerAlert _ => some ("K7QX".toList, none)
  | .say _ _ => some ()
  | _ => none

/-- Two requests for help, handled at the same time. -/
def bothAsk (_ : Bool) : Handled :=
  .message "help: db down".toList "lobby".toList requester "2026-01-01".toList

/-- With every invitation refused both rooms are briefed, alert and are told the id. -/
example : eventsOf true (run step (start fun i => opsBot.handleEvent plainTemplates (bothAsk i))
    (List.flatten (List.replicate 9 [(true, refusing), (false, refusing)]))).log =
    [⟨.createRoom "Incident: {summary}".toList, some "room".toList⟩,
      ⟨.getMembers (.ofId "SRE".toList "t".toList 0), some [requester]⟩,
      ⟨.invite "room".toList (.personEmail "ada@x".toList), none⟩,
      ⟨.invite "room".toList (.personEmail "ada@x".toList), none⟩,
      ⟨.invite "room".toList (.personEmail "ada@x".toList), none⟩,
      ⟨.say "room".toList "**Summary:** db down".toList, some ()⟩,
      ⟨.triggerAlert ⟨.str "db down".toList, "room".toList, requester, .normal⟩,
        some ("K7QX".toList, none)⟩,
      ⟨.say "room".toList "Alert sent: K7QX".toList, some ()⟩] := by
  rfl

end Example

end Thaum.Bots
