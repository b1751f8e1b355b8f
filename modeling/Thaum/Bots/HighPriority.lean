import Thaum.Bots.Commands
import Thaum.Library.PyJson

/-!
# The high-priority gate

An alert of high priority can be asked for by the commands `emergency` and `alert!` and
by the card of an incident. A bot without high priority does not register the first and
refuses the second; the card's submission is taken as it comes.

What the platform answers to the calls of a handler is passed in with the event.
-/

namespace Thaum.Bots

open PyText PyRegex PyJson

/-- A call of `alert_plugin.trigger_alert`. -/
structure TriggerCall where
  summary : Json
  roomId : Text
  sender : ThaumPerson
  priority : AlertPriority

/-- How the calls of `create_incident_room` end that come before the alert: rendering the
title, `create_room`, reading and adding the members, and what is said in the room. -/
structure RoomCalls where
  titleRenders : Bool
  createRoom : Option Text
  membersAdded : Bool
  said : Bool

/-- An event, with what its handling meets. A message that is not for the bot has no text;
the sender is `none` where `get_person` raises. -/
inductive Inbound where
  | message (text : Option Text) (roomId roomTitle : Text) (sender : Option ThaumPerson)
    (room : RoomCalls) : Inbound
  | submission (inputs : List (Text × Json)) (sender : Option ThaumPerson) (room : RoomCalls) :
    Inbound
  | other : Inbound

/-- `value == text`. -/
def isText (text : Text) : Json → Bool
  | .str s => s == text
  | _ => false

/-- `value[:30]` does not raise. -/
def sliceable : Json → Bool
  | .str _ | .arr _ => true
  | _ => false

/-- The summary of a card with its plus signs read as spaces; `none` where that raises. -/
def cardSummary (inputs : List (Text × Json)) : Option Json :=
  match getDefault "summary".toList (.str "No summary provided".toList) inputs with
  | .str s =>
    if ' ' ∉ s ∧ '+' ∈ s then some (.str (s.map fun c => if c = '+' then ' ' else c))
    else some (.str s)
  | .arr items =>
    if !items.any (isText " ".toList) && items.any (isText "+".toList) then none
    else some (.arr items)
  | .obj fields =>
    let names := fields.map Prod.fst
    if !names.contains " ".toList && names.contains "+".toList then none else some (.obj fields)
  | _ => none

/-- `create_incident_room`: the call of the alert plugin it gets to. -/
def createIncidentRoom (room : RoomCalls) (summary : Json) (speaker : ThaumPerson)
    (priority : AlertPriority) : Option TriggerCall :=
  if sliceable summary && room.titleRenders then
    match room.createRoom with
    | none => none
    | some roomId =>
      if room.membersAdded && room.said then
        some { summary, roomId, sender := speaker, priority }
      else none
  else none

/-- The text of an alert without a room. -/
def alertMessage (sender : ThaumPerson) (roomTitle message : Text) : Text :=
  let called := sender.forDisplay ++ " needs you in ".toList ++ roomTitle
  if message = [] then called else called ++ ": ".toList ++ message

/-- What a command calls the alert plugin with, if it does. -/
def Command.trigger (roomId roomTitle : Text) (sender : ThaumPerson) (room : RoomCalls) :
    Command → Option TriggerCall
  | .incident priority summary =>
    -- without a summary the card is sent
    if summary = [] then none else createIncidentRoom room (.str summary) sender priority
  | .alert priority message =>
    some { summary := .str (alertMessage sender roomTitle message), roomId, sender, priority }
  | _ => none

/-- The priority a submitted card asks for. -/
def cardPriority (inputs : List (Text × Json)) : AlertPriority :=
  if isText "true".toList (get "is_emergency".toList inputs) then .high else .normal

/-- `handle_actions`. -/
def handleActions (inputs : List (Text × Json)) (sender : Option ThaumPerson)
    (room : RoomCalls) : Option TriggerCall :=
  if !isText "submit_incident".toList (get "action".toList inputs) then none
  else
    (cardSummary inputs).bind fun summary =>
      sender.bind fun speaker => createIncidentRoom room summary speaker (cardPriority inputs)

/-- `handle_event`: the call of the alert plugin it makes, if it makes one. -/
def handleEvent (bot : BotConfig) : Inbound → Option TriggerCall
  | .message (some text) roomId roomTitle (some sender) room =>
    (hear bot text).bind (Command.trigger roomId roomTitle sender room)
  | .message _ _ _ _ _ => none
  | .submission inputs sender room => handleActions inputs sender room
  | .other => none

/-- No event leads to an alert of high priority. -/
def NeverHigh (bot : BotConfig) (events : List Inbound) : Prop :=
  ∀ call ∈ events.filterMap (handleEvent bot), call.priority ≠ .high

/-- Every call before the alert succeeds. -/
def RoomCalls.Complete (room : RoomCalls) : Prop :=
  room.titleRenders = true ∧ room.createRoom.isSome = true ∧ room.membersAdded = true ∧
    room.said = true

/-- A submitted incident card that says emergency, with a summary that can be read and a
sender, in a room that can be made. -/
def UrgentSubmission : Inbound → Prop
  | .submission inputs sender room =>
    isText "submit_incident".toList (get "action".toList inputs) = true ∧
      isText "true".toList (get "is_emergency".toList inputs) = true ∧
      (∃ summary ∈ cardSummary inputs, sliceable summary = true) ∧ sender.isSome = true ∧
      room.Complete
  | _ => False

/-- The priority a command calls with, where it is a call. -/
def Command.priority : Command → Option AlertPriority
  | .incident priority _ | .alert priority _ => some priority
  | _ => none

variable {bot : BotConfig} {text name : Text} {found : Cursor} {room : RoomCalls}

/-- The message part captures nothing under another name, so what a pattern captured as its command
is what its words matched. -/
theorem bodyPart_groups {cursor after : Cursor}
    (listed : after ∈ (Regex.seq (bodyPart name) .finish).ways text cursor) :
    after.groups = cursor.groups ∨ ∃ body, after.groups = (name, body) :: cursor.groups := by
  rw [bodyPart_ways] at listed
  have unmoved {between : Cursor} (ended : after ∈ Regex.ways text .finish between) :
      after = between := by
    rw [Regex.ways_finish] at ended
    split at ended
    · exact List.mem_singleton.mp ended
    · exact absurd ended List.not_mem_nil
  rcases List.mem_append.mp listed with captured | leftOut
  · obtain ⟨between, isBetween, ended⟩ := List.mem_flatMap.mp captured
    obtain rfl := unmoved ended
    obtain ⟨colon, isColon, isBetween⟩ := List.mem_flatMap.mp isBetween
    obtain ⟨blank, isBlank, isBetween⟩ := List.mem_flatMap.mp isBetween
    obtain ⟨line, isLine, rfl⟩ := List.mem_map.mp isBetween
    obtain ⟨_, _, rfl⟩ := List.mem_map.mp isLine
    obtain ⟨_, _, rfl⟩ := List.mem_map.mp isBlank
    have kept : colon.groups = cursor.groups := by
      rw [Regex.ways] at isColon
      split at isColon
      · exact absurd isColon List.not_mem_nil
      · split at isColon
        · rw [List.mem_singleton.mp isColon]
        · exact absurd isColon List.not_mem_nil
    right
    exact ⟨_, congrArg (_ :: ·) kept⟩
  · left
    rw [unmoved leftOut]

/-- What a command pattern captures as its command is what its words matched. -/
theorem commandPattern_cmd {words : Regex} (different : name ≠ "cmd".toList)
    (isFound : search (commandPattern words name) text = some found) :
    ∃ after ∈ words.ways text ⟨text, []⟩,
      found.group "cmd".toList = some ((Cursor.mk text []).captured after) := by
  rw [commandPattern, search_start, Regex.ways_seq, Regex.ways_group] at isFound
  obtain ⟨captured, isCaptured, ended⟩ := List.mem_flatMap.mp (List.mem_of_head? isFound)
  obtain ⟨after, isAfter, rfl⟩ := List.mem_map.mp isCaptured
  refine ⟨after, isAfter, ?_⟩
  rcases bodyPart_groups ended with same | ⟨body, added⟩
  · rw [Cursor.group, same]
    exact List.lookup_cons_self
  · rw [Cursor.group, added, List.lookup_cons, beq_eq_false_iff_ne.mpr different.symm]
    exact List.lookup_cons_self

/-- What the pattern of `help` captures as its command is `help`, up to its case. Its handler makes
no high priority of that. -/
theorem help_cmd
    (isFound : search (commandPattern (word "help".toList) "summary".toList) text = some found) :
    lower ((found.group "cmd".toList).getD []) = "help".toList := by
  obtain ⟨after, isAfter, captured⟩ := commandPattern_cmd (by decide) isFound
  rw [word_ways] at isAfter
  obtain ⟨rest, isRest, rfl⟩ := Option.map_eq_some_iff.mp (Option.mem_toList.mp isAfter)
  obtain ⟨s, parts, spelled⟩ := afterWord_some isRest (by decide)
  have taken : (Cursor.mk text []).captured ⟨rest, []⟩ = s := by
    have parts : text = s ++ rest := parts
    rw [parts]
    exact captured_append s rest [] []
  rw [captured, taken, Option.getD_some]
  exact lower_spelled spelled (by decide)

/-- The routes after registering one are that one and those before. -/
theorem mem_hears {priority : Nat} {pattern : Regex} {handler : Cursor → Command}
    {routes : List HearsRoute} {route : HearsRoute} :
    route ∈ hears priority pattern handler routes ↔
      route = { priority, pattern, handler } ∨ route ∈ routes := by
  have both := List.takeWhile_append_dropWhile (p := fun route => route.priority ≤ priority)
    (l := routes)
  conv_rhs => rw [← both]
  rw [hears, List.mem_append, List.mem_cons, List.mem_append]
  tauto

/-- A bot without high priority refuses `alert!` in its handler, which carries out no call then. -/
theorem handleAlert_plain (off : bot.highPriOn = false) :
    (handleAlert bot found).priority ≠ some .high := by
  rw [handleAlert]
  split
  · exact Option.some_ne_none _ ∘ Eq.symm
  · rename_i notRefused
    have notBang : lower ((found.group "cmd".toList).getD []) ≠ "alert!".toList :=
      fun bang => notRefused ⟨bang, off⟩
    rw [if_neg notBang]
    exact fun same => absurd (Option.some.inj same) (by decide)

/-- A route that is registered under a condition is listed only if it was there before or is that
one. -/
theorem mem_hears_if {registers : Bool} {priority : Nat} {pattern : Regex}
    {handler : Cursor → Command} {routes : List HearsRoute} {route : HearsRoute}
    (listed : route ∈ if registers then hears priority pattern handler routes else routes) :
    route = { priority, pattern, handler } ∨ route ∈ routes := by
  split at listed
  · exact mem_hears.mp listed
  · exact Or.inr listed

/-- The routes of a bot without high priority: `help`, the alerts, and what is no call. The route of
`emergency` is not among them. -/
theorem plain_routes {route : HearsRoute} (off : bot.highPriOn = false)
    (listed : route ∈ bindThaumHandlers bot) :
    route = ⟨10, commandPattern (word "help".toList) "summary".toList, handleHelpEmergency⟩ ∨
      route.handler = handleAlert bot ∨ ∀ found, (route.handler found).priority = none := by
  rw [bindThaumHandlers, off] at listed
  rcases mem_hears.mp listed with rfl | listed
  · exact Or.inr (Or.inr fun _ => rfl)
  rcases mem_hears.mp listed with rfl | listed
  · exact Or.inr (Or.inr fun _ => rfl)
  rcases mem_hears.mp listed with rfl | listed
  · exact Or.inr (Or.inr fun _ => rfl)
  rcases mem_hears_if listed with rfl | listed
  · exact Or.inr (Or.inr fun _ => rfl)
  rcases mem_hears_if listed with rfl | listed
  · exact Or.inr (Or.inl rfl)
  · exact Or.inl ((mem_hears.mp listed).resolve_right List.not_mem_nil)

/-- Without high priority no route leads to a call of that priority: `emergency` is not
registered, and `alert!` is refused. -/
theorem hear_plain {command : Command} (off : bot.highPriOn = false)
    (heard : hear bot text = some command) : command.priority ≠ some .high := by
  obtain ⟨route, listed, found, isFound, rfl⟩ := dispatch_some heard
  rcases plain_routes off listed with rfl | alerts | notCall
  · change (handleHelpEmergency found).priority ≠ _
    rw [handleHelpEmergency, help_cmd isFound, if_neg (by decide)]
    exact fun same => absurd (Option.some.inj same) (by decide)
  · rw [alerts]
    exact handleAlert_plain off
  · rw [notCall]
    exact (Option.some_ne_none _).symm

/-- An incident room ends in a call of the alert plugin exactly if nothing fails before, and then in
that one call. -/
theorem createIncidentRoom_iff {summary : Json} {speaker : ThaumPerson}
    {priority : AlertPriority} {call : TriggerCall} :
    createIncidentRoom room summary speaker priority = some call ↔
      sliceable summary = true ∧ room.Complete ∧
        ∃ roomId ∈ room.createRoom, call = ⟨summary, roomId, speaker, priority⟩ := by
  constructor
  · intro made
    rw [createIncidentRoom] at made
    split at made
    · rename_i readable
      rw [Bool.and_eq_true] at readable
      split at made
      · simp at made
      · rename_i roomId created
        split at made
        · rename_i done
          rw [Bool.and_eq_true] at done
          exact ⟨readable.1, ⟨readable.2, by rw [created]; rfl, done.1, done.2⟩, roomId, created,
            (Option.some.inj made).symm⟩
        · simp at made
    · simp at made
  · rintro ⟨readable, ⟨renders, _, added, said⟩, roomId, created, rfl⟩
    rw [createIncidentRoom, readable, renders, Option.mem_def.mp created, added, said]
    rfl

/-- A command calls the alert plugin with its own priority. -/
theorem trigger_priority {roomId roomTitle : Text} {sender : ThaumPerson} {command : Command}
    {call : TriggerCall} (triggered : command.trigger roomId roomTitle sender room = some call) :
    command.priority = some call.priority := by
  cases command with
  | incident priority summary =>
    rw [Command.trigger] at triggered
    split at triggered
    · simp at triggered
    · obtain ⟨_, _, _, _, rfl⟩ := createIncidentRoom_iff.mp triggered
      rfl
  | alert priority message =>
    obtain rfl := Option.some.inj triggered
    rfl
  | _ => simp [Command.trigger] at triggered

/-- The card's submission is a call of high priority exactly if it is urgent: nothing asks
the bot whether that priority is on. -/
theorem handleActions_high_iff {inputs : List (Text × Json)} {sender : Option ThaumPerson} :
    (∃ call ∈ handleActions inputs sender room, call.priority = .high) ↔
      UrgentSubmission (.submission inputs sender room) := by
  rw [UrgentSubmission, handleActions]
  constructor
  · rintro ⟨call, made, isHigh⟩
    split at made
    · simp at made
    · rename_i submitted
      obtain ⟨summary, isSummary, made⟩ := Option.bind_eq_some_iff.mp made
      obtain ⟨speaker, rfl, made⟩ := Option.bind_eq_some_iff.mp made
      obtain ⟨readable, complete, roomId, created, rfl⟩ := createIncidentRoom_iff.mp made
      have emergency : isText "true".toList (get "is_emergency".toList inputs) = true := by
        by_contra notSaid
        have asked : cardPriority inputs = .high := isHigh
        rw [cardPriority, if_neg notSaid] at asked
        exact absurd asked (by decide)
      rw [Bool.not_eq_true', Bool.not_eq_false] at submitted
      exact ⟨submitted, emergency, ⟨summary, isSummary, readable⟩, rfl, complete⟩
  · rintro ⟨submitted, emergency, ⟨summary, isSummary, readable⟩, isSender, complete⟩
    obtain ⟨speaker, rfl⟩ := Option.isSome_iff_exists.mp isSender
    obtain ⟨roomId, created⟩ := Option.isSome_iff_exists.mp complete.2.1
    refine ⟨⟨summary, roomId, speaker, .high⟩, ?_, rfl⟩
    rw [submitted, Option.mem_def.mp isSummary, cardPriority, emergency]
    exact createIncidentRoom_iff.mpr ⟨readable, complete, roomId, created, rfl⟩

/-- The events that lead a bot without high priority to a call of that priority. A message never
does, so it is a question of the submission alone. -/
theorem handleEvent_high_iff (off : bot.highPriOn = false) (event : Inbound) :
    (∃ call ∈ handleEvent bot event, call.priority = .high) ↔ UrgentSubmission event := by
  cases event with
  | message text roomId roomTitle sender room =>
    refine iff_of_false ?_ not_false
    rintro ⟨call, made, isHigh⟩
    cases text with
    | none => simp [handleEvent] at made
    | some text =>
      cases sender with
      | none => simp [handleEvent] at made
      | some sender =>
        obtain ⟨command, heard, triggered⟩ := Option.bind_eq_some_iff.mp made
        apply hear_plain off heard
        rw [trigger_priority triggered, isHigh]
  | submission inputs sender room => exact handleActions_high_iff
  | other =>
    refine iff_of_false ?_ not_false
    rintro ⟨call, made, _⟩
    simp [handleEvent] at made

/-- A bot without high priority never raises an alert of that priority exactly if no submission that
reaches it is urgent.

Proof: events are handled one by one, so it is enough to look at each. A message is heard by a
route, and those of such a bot lead to no call of high priority; a submission is looked at in
`handleActions_high_iff`. -/
theorem never_high_iff (bot : BotConfig) (off : bot.highPriOn = false) (events : List Inbound) :
    NeverHigh bot events ↔ ∀ event ∈ events, ¬ UrgentSubmission event := by
  constructor
  · intro never event listed urgent
    obtain ⟨call, made, isHigh⟩ := (handleEvent_high_iff off event).mpr urgent
    exact never call (List.mem_filterMap.mpr ⟨event, listed, made⟩) isHigh
  · intro calm call made isHigh
    obtain ⟨event, listed, isCall⟩ := List.mem_filterMap.mp made
    exact calm event listed ((handleEvent_high_iff off event).mp ⟨call, isCall, isHigh⟩)

section Example

/-- A bot that sends alerts, of normal priority only. -/
def plainBot : BotConfig := { sendAlerts := true, highPriOn := false, supportsAcknowledge := true }

/-- Who asks for help. -/
def requester : ThaumPerson :=
  { email := "ada@x".toList, displayName := "Ada".toList, platformIds := [],
    sourcePlugin := "webex".toList }

/-- A room that can be made. -/
def openRoom : RoomCalls :=
  { titleRenders := true, createRoom := some "room".toList, membersAdded := true, said := true }

/-- A card from when the bot had high priority. -/
def earlierCard : Inbound :=
  .submission [("action".toList, .str "submit_incident".toList),
    ("summary".toList, .str "db down".toList), ("is_emergency".toList, .str "true".toList)]
    (some requester) openRoom

/-- The card's toggle raises an alert of high priority where `alert!` is refused: the handler of a
submission does not ask for the setting. -/
theorem earlier_card_pages_high :
    plainBot.highPriOn = false ∧ hear plainBot "alert!".toList = some .highPriorityRefused ∧
      ¬ NeverHigh plainBot [earlierCard] := by
  refine ⟨rfl, by decide +kernel, ?_⟩
  intro never
  exact never ⟨.str "db down".toList, "room".toList, requester, .high⟩
    (List.mem_singleton.mpr rfl) rfl

/-- Commands alone never do, whatever they say. -/
theorem commands_never_high :
    NeverHigh plainBot [.message (some "emergency: db down".toList) "room".toList "ops".toList
      (some requester) openRoom] :=
  (never_high_iff plainBot rfl _).mpr fun event listed => by
    rw [List.mem_singleton.mp listed]
    exact not_false

end Example

end Thaum.Bots
