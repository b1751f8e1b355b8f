import Thaum.Bots.HighPriority
import Thaum.Jira.Trigger

/-!
# What an alert tells of its sender

The body posted for an alert names the sender by display name only. Its message is
the text the handler made, and an alert without a room has the sender's name for
display in front, which is the email of a sender without display name.

Two runs are compared that differ in the email of the sender. The title of an
incident room has the sender's name for display too, so the calls that make the room
may end differently in the two.
-/

namespace Thaum.Bots

open PyText PyJson Lookup Jira

/-- An entry of `responders` as it is posted. -/
def responderJson (entry : JiraResponder) : Json :=
  .obj [("type".toList, .str (if entry.type = .team then "team".toList else "user".toList)),
    ("id".toList, .str entry.id)]

/-- The body that `post_alert` writes: the parts of the alert, with the summary the
plugin was called with as its message. -/
def alertJson (summary : Json) (alert : AlertBody) : Json :=
  .obj ([("message".toList, summary), ("source".toList, .str alert.source),
      ("alias".toList, .str alert.alertAlias), ("priority".toList, .str alert.priority),
      ("responders".toList, .arr (alert.responders.map responderJson)),
      ("extraProperties".toList, .obj [("sender".toList, .str alert.sender),
        ("short_id".toList, .str alert.shortId)])] ++
    if alert.tags = [] then [] else [("tags".toList, .arr (alert.tags.map .str))])

/-- The same sender under another email. -/
def withEmail (email : Text) (sender : ThaumPerson) : ThaumPerson := { sender with email }

/-- The same event from a sender with another email, in which the calls that make a room
end as given. -/
def Inbound.withEmail (email : Text) (room : RoomCalls) : Inbound → Inbound
  | .message text roomId roomTitle sender _ =>
    .message text roomId roomTitle (sender.map (Bots.withEmail email)) room
  | .submission inputs sender _ => .submission inputs (sender.map (Bots.withEmail email)) room
  | .other => .other

/-- How the calls that make a room end in an event. -/
def Inbound.room : Inbound → Option RoomCalls
  | .message _ _ _ _ room | .submission _ _ room => some room
  | .other => none

section Posting

variable (chat : BotConfig) (rendering : Rendering) (cfg : JiraConfig) (bot : Jira.Bot)
  (calls : AuxiliaryCalls) (now : Nat) (today shortId : Text) (names : TeamNames)
  (db : IdentityDb)

/-- The body that `trigger_alert` posts when it is called; `none` where it raises before. -/
def postedBody (call : TriggerCall) : Option Json :=
  (prepareAlert rendering cfg bot calls now [] call.sender call.priority today shortId names
    db).map fun prepared => alertJson call.summary prepared.1

/-- The body posted to Jira for an event, if one is. -/
def postedFor (event : Inbound) : Option Json :=
  (handleEvent chat event).bind
    (postedBody rendering cfg bot calls now today shortId names db)

/-- Whatever other email the sender has, the same body is posted: in the same
circumstances one is posted in both runs or in neither, and where the room is made
otherwise, a body that is posted is the same one. -/
def EmailPrivate (event : Inbound) : Prop :=
  ∀ email,
    (∀ room ∈ event.room,
      postedFor chat rendering cfg bot calls now today shortId names db
          (event.withEmail email room) =
        postedFor chat rendering cfg bot calls now today shortId names db event) ∧
    ∀ room,
      ∀ one ∈ postedFor chat rendering cfg bot calls now today shortId names db
          (event.withEmail email room),
      ∀ other ∈ postedFor chat rendering cfg bot calls now today shortId names db event,
        one = other

/-- A message with the command for an alert without a room, from a sender without
display name. -/
def NamelessPage : Inbound → Prop
  | .message (some text) _ _ (some sender) _ =>
    sender.displayName.getD [] = [] ∧
      ∃ priority message, hear chat text = some (.alert priority message)
  | _ => False

end Posting

variable {chat : BotConfig} {rendering : Rendering} {cfg : JiraConfig} {bot : Jira.Bot}
  {calls : AuxiliaryCalls} {now : Nat} {today shortId email : Text} {names : TeamNames}
  {db : IdentityDb} {sender : ThaumPerson} {priority : AlertPriority} {room other : RoomCalls}
  {summary : Json} {event : Inbound}

/-- Two bodies of one call are the same only with the same message, which is one of their fields. -/
theorem alertJson_summary {first second : Json} {alert : AlertBody}
    (same : alertJson first alert = alertJson second alert) : first = second := by
  unfold alertJson at same
  simp only [Json.obj.injEq, List.cons_append, List.cons.injEq, Prod.mk.injEq] at same
  exact same.1.2

/-- A call of the alert plugin from a sender with another email. -/
def TriggerCall.withEmail (email : Text) (call : TriggerCall) : TriggerCall :=
  { call with sender := Bots.withEmail email call.sender }

/-- The calls agree in what is posted of them, the sender's email apart. -/
def SamePost (first second : TriggerCall) : Prop :=
  first.summary = second.summary ∧ first.priority = second.priority ∧
    first.sender.displayName = second.sender.displayName

/-- What is posted for a call does not depend on the parts of it that only the room is told. -/
theorem postedBody_same {first second : TriggerCall} (same : SamePost first second) :
    postedBody rendering cfg bot calls now today shortId names db first =
      postedBody rendering cfg bot calls now today shortId names db second := by
  obtain ⟨summary, priority, displayName⟩ := same
  have name : senderExtraName first.sender = senderExtraName second.sender := by
    unfold senderExtraName
    rw [displayName]
  unfold postedBody prepareAlert buildTriggerAlertBody
  rw [summary, priority, name]

/-- The engine calls the plugin with the summary and the priority it was given. -/
theorem createIncidentRoom_some {call : TriggerCall}
    (made : createIncidentRoom room summary sender priority = some call) :
    call.summary = summary ∧ call.priority = priority ∧ call.sender = sender := by
  unfold createIncidentRoom at made
  split at made
  · split at made
    · simp at made
    · split at made
      · obtain rfl := Option.some.inj made
        exact ⟨rfl, rfl, rfl⟩
      · simp at made
  · simp at made

/-- In the same circumstances the engine gets to a call in both runs or in neither: no branch of it
asks for the email. -/
theorem createIncidentRoom_isSome :
    (createIncidentRoom room summary (withEmail email sender) priority).isSome =
      (createIncidentRoom room summary sender priority).isSome := by
  unfold createIncidentRoom
  split
  · split
    · rfl
    · split <;> rfl
  · rfl

/-- However the room is made in the two runs, what the engine calls with is the same. The room's id
may differ, but it is not posted. -/
theorem createIncidentRoom_same {first second : TriggerCall}
    (made : createIncidentRoom other summary (withEmail email sender) priority = some first)
    (remade : createIncidentRoom room summary sender priority = some second) :
    SamePost first second := by
  obtain ⟨ofSummary, ofPriority, ofSender⟩ := createIncidentRoom_some made
  obtain ⟨toSummary, toPriority, toSender⟩ := createIncidentRoom_some remade
  refine ⟨ofSummary.trans toSummary.symm, ofPriority.trans toPriority.symm, ?_⟩
  rw [ofSender, toSender]
  rfl

/-- The text of an alert is the same where the sender has a display name, as that is what stands in
front of it. -/
theorem alertMessage_withEmail {roomTitle message : Text}
    (named : sender.displayName.getD [] ≠ []) :
    alertMessage (withEmail email sender) roomTitle message =
      alertMessage sender roomTitle message := by
  have display : (withEmail email sender).forDisplay = sender.forDisplay := by
    unfold ThaumPerson.forDisplay withEmail orElse
    rw [if_neg named, if_neg named]
  unfold alertMessage
  rw [display]

/-- Without a display name the text of an alert tells emails of different length apart. The email is
its beginning then. -/
theorem alertMessage_length {roomTitle message : Text}
    (nameless : sender.displayName.getD [] = [])
    (same : alertMessage (withEmail email sender) roomTitle message =
      alertMessage sender roomTitle message) : email.length = sender.email.length := by
  have shown (someone : ThaumPerson) (blank : someone.displayName.getD [] = []) :
      someone.forDisplay = someone.email := by
    unfold ThaumPerson.forDisplay orElse
    rw [if_pos blank]
  have lengths := congrArg List.length same
  unfold alertMessage at lengths
  rw [shown sender nameless, shown (withEmail email sender) nameless] at lengths
  by_cases blank : message = []
  · rw [if_pos blank, if_pos blank] at lengths
    simp only [List.length_append] at lengths
    exact Nat.add_right_cancel (Nat.add_right_cancel lengths)
  · rw [if_neg blank, if_neg blank] at lengths
    simp only [List.length_append] at lengths
    unfold withEmail at lengths
    dsimp only at lengths
    omega

/-- In the same circumstances the handlers get to a call in both runs or in neither, whatever the
event is. -/
theorem handleEvent_isSome (same : room ∈ event.room) :
    (handleEvent chat (event.withEmail email room)).isSome = (handleEvent chat event).isSome := by
  cases event with
  | message text roomId roomTitle sender room =>
    obtain rfl := Option.some.inj same
    cases text with
    | none => cases sender <;> rfl
    | some text =>
      cases sender with
      | none => rfl
      | some sender =>
        dsimp only [Inbound.withEmail, handleEvent, Option.map_some]
        cases hear chat text with
        | none => rfl
        | some command =>
          rw [Option.bind_some, Option.bind_some]
          cases command with
          | incident priority summary =>
            dsimp only [Command.trigger]
            by_cases bare : summary = []
            · rw [if_pos bare, if_pos bare]
            · rw [if_neg bare, if_neg bare]
              exact createIncidentRoom_isSome
          | _ => rfl
  | submission inputs sender room =>
    obtain rfl := Option.some.inj same
    dsimp only [Inbound.withEmail, handleEvent, handleActions]
    split
    · rfl
    · cases cardSummary inputs with
      | none => rfl
      | some summary =>
        cases sender with
        | none => rfl
        | some sender => exact createIncidentRoom_isSome
  | other => rfl

/-- Unless it is for a nameless sender's alert without a room, the call the handlers get to is the
same however the room is made. The cases are those of the event and its command. -/
theorem handleEvent_same (notNameless : ¬ NamelessPage chat event) {first second : TriggerCall}
    (called : handleEvent chat (event.withEmail email other) = some first)
    (calledAgain : handleEvent chat event = some second) : SamePost first second := by
  cases event with
  | message text roomId roomTitle sender room =>
    cases text with
    | none => cases sender <;> simp [handleEvent] at calledAgain
    | some text =>
      cases sender with
      | none => simp [handleEvent] at calledAgain
      | some sender =>
        dsimp only [Inbound.withEmail, handleEvent, Option.map_some] at called calledAgain
        cases heard : hear chat text with
        | none => simp [heard] at calledAgain
        | some command =>
          rw [heard, Option.bind_some] at called calledAgain
          cases command with
          | incident priority summary =>
            dsimp only [Command.trigger] at called calledAgain
            split at calledAgain
            · simp at calledAgain
            · rename_i described
              rw [if_neg described] at called
              exact createIncidentRoom_same called calledAgain
          | alert priority message =>
            have named : sender.displayName.getD [] ≠ [] := fun nameless =>
              notNameless ⟨nameless, priority, message, heard⟩
            obtain rfl := Option.some.inj called
            obtain rfl := Option.some.inj calledAgain
            exact ⟨congrArg Json.str (alertMessage_withEmail named), rfl, rfl⟩
          | _ => simp [Command.trigger] at calledAgain
  | submission inputs sender room =>
    dsimp only [Inbound.withEmail, handleEvent, handleActions] at called calledAgain
    split at calledAgain
    · simp at calledAgain
    · rename_i submitted
      rw [if_neg submitted] at called
      cases summarised : cardSummary inputs with
      | none => simp [summarised] at calledAgain
      | some summary =>
        rw [summarised, Option.bind_some] at called calledAgain
        cases sender with
        | none => simp at calledAgain
        | some sender => exact createIncidentRoom_same called calledAgain
  | other => simp [handleEvent] at calledAgain

/-- A call is posted exactly where the teams are answered and the searches can be read. -/
theorem postedBody_isSome (call : TriggerCall) :
    (postedBody rendering cfg bot calls now today shortId names db call).isSome = true ↔
      TeamsAnswered rendering cfg calls names ∧ SearchesReadable rendering cfg bot calls := by
  unfold postedBody
  rw [Option.isSome_map]
  exact prepareAlert_isSome []

/-- The bodies posted for two calls from one sender have the messages of the calls, so equal bodies
come of equal messages. -/
theorem postedBody_summary {first second : TriggerCall}
    (same : postedBody rendering cfg bot calls now today shortId names db first =
      postedBody rendering cfg bot calls now today shortId names db second)
    (sent : (postedBody rendering cfg bot calls now today shortId names db first).isSome = true)
    (priority : first.priority = second.priority)
    (displayName : first.sender.displayName = second.sender.displayName) :
    first.summary = second.summary := by
  have prepared : prepareAlert rendering cfg bot calls now [] first.sender first.priority today
      shortId names db = prepareAlert rendering cfg bot calls now [] second.sender second.priority
      today shortId names db := by
    unfold prepareAlert buildTriggerAlertBody senderExtraName
    rw [priority, displayName]
  unfold postedBody at same sent
  rw [← prepared] at same
  rw [Option.isSome_map] at sent
  obtain ⟨built, isBuilt⟩ := Option.isSome_iff_exists.mp sent
  rw [isBuilt, Option.map_some, Option.map_some] at same
  exact alertJson_summary (Option.some.inj same)

/-- Where the message of an event is not the nameless sender's, the bodies agree, whichever way the
room was made in the two runs. -/
theorem postedFor_same (notNameless : ¬ NamelessPage chat event) {first second : Json}
    (sent : first ∈ postedFor chat rendering cfg bot calls now today shortId names db
      (event.withEmail email other))
    (resent : second ∈ postedFor chat rendering cfg bot calls now today shortId names db event) :
    first = second := by
  obtain ⟨call, called, posted⟩ := Option.bind_eq_some_iff.mp sent
  obtain ⟨again, calledAgain, reposted⟩ := Option.bind_eq_some_iff.mp resent
  rw [postedBody_same (handleEvent_same notNameless called calledAgain), reposted] at posted
  exact (Option.some.inj posted).symm

/-- In the same circumstances a body is posted in both runs or in neither. -/
theorem postedFor_isSome (same : room ∈ event.room) :
    (postedFor chat rendering cfg bot calls now today shortId names db
        (event.withEmail email room)).isSome =
      (postedFor chat rendering cfg bot calls now today shortId names db event).isSome := by
  have sameCalls : (handleEvent chat (event.withEmail email room)).isSome =
      (handleEvent chat event).isSome := handleEvent_isSome same
  unfold postedFor
  cases called : handleEvent chat (event.withEmail email room) with
  | none =>
    rw [called, Option.isSome_none] at sameCalls
    rw [Option.isNone_iff_eq_none.mp (Option.isSome_eq_false_iff.mp sameCalls.symm)]
  | some call =>
    rw [called, Option.isSome_some] at sameCalls
    obtain ⟨again, calledAgain⟩ := Option.isSome_iff_exists.mp sameCalls.symm
    rw [calledAgain, Option.bind_some, Option.bind_some, Bool.eq_iff_iff, postedBody_isSome,
      postedBody_isSome]

/-- The email of a sender stays out of what is posted, except where a sender without display name
pages without a room and the alert gets to its POST.

Proof: in that case a longer email makes a longer message, and the body tells it. In every other
case either no body is posted, in both runs alike, or the call that is posted is the same. -/
theorem sender_email_private_iff (chat : BotConfig) (rendering : Rendering) (cfg : JiraConfig)
    (bot : Jira.Bot) (calls : AuxiliaryCalls) (now : Nat) (today shortId : Text)
    (names : TeamNames) (db : IdentityDb) (event : Inbound) :
    EmailPrivate chat rendering cfg bot calls now today shortId names db event ↔
      ¬ (NamelessPage chat event ∧ TeamsAnswered rendering cfg calls names ∧
        SearchesReadable rendering cfg bot calls) := by
  constructor
  · rintro hidden ⟨nameless, readable⟩
    match event, nameless with
    | .message (some text) roomId roomTitle (some sender) room, ⟨blank, priority, message, heard⟩ =>
      have same := (hidden (sender.email ++ ['x'])).1 room rfl
      have runs (someone : ThaumPerson) : postedFor chat rendering cfg bot calls now today shortId
          names db (.message (some text) roomId roomTitle (some someone) room) =
            postedBody rendering cfg bot calls now today shortId names db
              ⟨.str (alertMessage someone roomTitle message), roomId, someone, priority⟩ := by
        dsimp only [postedFor, handleEvent]
        rw [heard]
        rfl
      have sameBody := (runs (withEmail (sender.email ++ ['x']) sender)).symm.trans
        (same.trans (runs sender))
      have messages := postedBody_summary sameBody ((postedBody_isSome _).mpr readable) rfl rfl
      have lengths := alertMessage_length blank (Json.str.inj messages)
      rw [List.length_append] at lengths
      exact absurd lengths (by simp)
  · intro harmless email
    by_cases nameless : NamelessPage chat event
    · have unread : ¬ (TeamsAnswered rendering cfg calls names ∧
          SearchesReadable rendering cfg bot calls) :=
        fun readable => harmless ⟨nameless, readable⟩
      have nothing (any : Inbound) :
          postedFor chat rendering cfg bot calls now today shortId names db any = none := by
        unfold postedFor
        rw [Option.bind_eq_none_iff]
        intro call _
        rw [← Option.not_isSome_iff_eq_none, postedBody_isSome]
        exact unread
      constructor
      · intro room _
        rw [nothing, nothing]
      · intro room one sent
        rw [nothing] at sent
        cases sent
    · constructor
      · intro room same
        have both : (postedFor chat rendering cfg bot calls now today shortId names db
            (event.withEmail email room)).isSome = (postedFor chat rendering cfg bot calls now
              today shortId names db event).isSome := postedFor_isSome same
        cases first : postedFor chat rendering cfg bot calls now today shortId names db
            (event.withEmail email room) with
        | none =>
          rw [first, Option.isSome_none] at both
          rw [Option.isNone_iff_eq_none.mp (Option.isSome_eq_false_iff.mp both.symm)]
        | some one =>
          rw [first, Option.isSome_some] at both
          obtain ⟨other, second⟩ := Option.isSome_iff_exists.mp both.symm
          rw [second, postedFor_same nameless first second]
      · intro room one sent other resent
        exact postedFor_same nameless sent resent

section Example

/-- A bot without responders. -/
def unstaffedBot : Jira.Bot :=
  { Jira.exampleBot with responders := { people := [], teams := [] } }

/-- An alert from a sender whom the chat platform gives no display name. -/
def namelessPage (email : Text) : Inbound :=
  .message (some "alert: disk full".toList) "room".toList "Operations".toList
    (some (.ofEmail email)) ⟨true, none, true, true⟩

/-- The message of a posted body. -/
def postedMessage (body : Json) : Option Text :=
  match body.fields?.map (PyJson.get "message".toList) with
  | some (.str message) => some message
  | _ => none

/-- What is posted of it, where the team list is answered. -/
def postedPage (email : Text) : Option Json :=
  postedFor fullBot asciiRendering exampleConfig unstaffedBot unreadableSearch 0
    "20260101".toList "ABCD".toList .empty .empty (namelessPage email)

/-- The message posted for an alert from a sender without display name has the email in
it, so that two senders who differ in it are told apart. -/
theorem nameless_email_posted :
    (postedPage "alice@example.com".toList).bind postedMessage =
        some "alice@example.com needs you in Operations: disk full".toList ∧
      ¬ EmailPrivate fullBot asciiRendering exampleConfig unstaffedBot unreadableSearch 0
        "20260101".toList "ABCD".toList .empty .empty
        (namelessPage "alice@example.com".toList) := by
  constructor
  · decide +kernel
  · intro hidden
    have same : postedPage "bob@example.com".toList = postedPage "alice@example.com".toList :=
      (hidden "bob@example.com".toList).1 ⟨true, none, true, true⟩ rfl
    have messages := congrArg (Option.bind · postedMessage) same
    exact absurd messages (by decide +kernel)

end Example

end Thaum.Bots
