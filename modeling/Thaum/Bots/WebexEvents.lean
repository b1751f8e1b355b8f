import Thaum.Bots.IncidentRoom
import Thaum.Bots.MessageText

/-!
# Events of Webex

Webex tells a bot that there is a message or a submission, and the bot fetches what it is
about: the message, the kind of its room and its sender, or the action. A message of the bot
itself is dropped unread, and one that is not for the bot is dropped once it is read. What is
left is handled as before.

So the bot does nothing but read for a message that is neither direct nor mentions it, and
what it does for another stands behind what was read. Ids are texts where they are given.
-/

namespace Thaum.Bots

open PyText PyJson Scripts GuardedRuns

/-- What `messages.get` tells of a message. -/
structure FetchedMessage where
  text : Text
  markdown : Option Text
  mentionedPeople : List Text
  roomId : Text

/-- What `attachment_actions.get` tells of a submission. -/
structure FetchedAction where
  inputs : List (Text × Json)
  personId : Text
  messageId : Option Text

/-- The `data` of an event about a message. -/
structure MessageData where
  id : Option Text
  personId : Option Text
  roomId : Option Text

/-- An event, by its `resource`. -/
inductive WebexEvent where
  | messages : MessageData → WebexEvent
  | attachmentActions : (id : Option Text) → WebexEvent
  | other : WebexEvent

/-- The calls of `handle_event`: those that fetch, and those of the handlers. -/
inductive EventCall where
  | getMessage : (messageId : Text) → EventCall
  | getRoomType : (roomId : Text) → EventCall
  | getSender : (personId : Text) → EventCall
  | getAction : (actionId : Text) → EventCall
  | room : RoomCall → EventCall

/-- What a call returns; of a room, whether it is direct. -/
abbrev EventCall.Answer : EventCall → Type
  | .getMessage _ => FetchedMessage
  | .getRoomType _ => Bool
  | .getSender _ => ThaumPerson
  | .getAction _ => FetchedAction
  | .room call => call.Answer

/-- What the handling of an event does, as its calls. -/
abbrev EventScript (ρ : Type) : Type := Script EventCall EventCall.Answer ρ

/-- A call of the handling of an event and what it came to. -/
abbrev WebexLog : Type := List (Event EventCall EventCall.Answer)

/-- A call that fetches. -/
def fetch (c : EventCall) : EventScript (Option c.Answer) := .perform c

/-- A bot with the labels that Webex may leave in front of a command. -/
structure WebexListener extends RoomBot where
  botKey : Text
  displayName : Text
  emails : List Text

namespace WebexListener

variable (bot : WebexListener) (rules : CaseRules) (templates : Templates) (date : Text)

def identity : BotIdentity where
  handle := bot.handle
  botKey := bot.botKey
  meId := bot.meId
  displayName := bot.displayName
  emails := bot.emails

/-- A message that was fetched, with the kind of its room. -/
def webexMessage (message : FetchedMessage) (direct : Bool) : WebexMessage where
  text := message.text
  markdown := message.markdown
  direct
  mentionedPeople := message.mentionedPeople

/-- `handle_event` up to a handler: what is to be handled, and nothing where the event is
ignored or a call or a key raises. -/
def classify : WebexEvent → EventScript (Option Handled)
  | .messages data =>
    if data.personId = some bot.meId then .done none
    else
      match data.id with
      | none => .done none
      | some messageId =>
        (fetch (.getMessage messageId)).andThen fun message =>
          (fetch (.getRoomType message.roomId)).andThen fun direct =>
            match processMessage rules bot.identity (webexMessage message direct),
              data.personId, data.roomId with
            | some text, some personId, roomId? =>
              (fetch (.getSender personId)).andThen fun person =>
                .done (roomId?.map fun roomId => .message text roomId person date)
            | _, _, _ => .done none
  | .attachmentActions (some actionId) =>
    (fetch (.getAction actionId)).andThen fun action =>
      .done (some (.submission action.inputs action.personId action.messageId date))
  | .attachmentActions none | .other => .done none

/-- `handle_event`. -/
def onEvent (event : WebexEvent) : EventScript Unit :=
  (bot.classify rules date event).bind fun
    | none => .done ()
    | some handled => (bot.handleEvent templates handled).lift EventCall.room

end WebexListener

/-- A call that fetches. -/
def Fetches (call : EventCall) : Prop := ∀ made, call ≠ .room made

/-- What was fetched for an event, and what is to be handled: a message of somebody else that is
for the bot, or a submission. -/
inductive Classified (bot : WebexListener) (rules : CaseRules) (date : Text) :
    WebexEvent → WebexLog → Handled → Prop where
  | message {data : MessageData} {messageId personId roomId text : Text}
      {message : FetchedMessage} {direct : Bool} {person : ThaumPerson}
      (isId : data.id = some messageId) (isPerson : data.personId = some personId)
      (isRoom : data.roomId = some roomId) (other : personId ≠ bot.meId)
      (processed : processMessage rules bot.identity (WebexListener.webexMessage message direct) =
        some text) :
      Classified bot rules date (.messages data)
        [⟨.getMessage messageId, some message⟩, ⟨.getRoomType message.roomId, some direct⟩,
          ⟨.getSender personId, some person⟩]
        (.message text roomId person date)
  | submission {actionId : Text} {action : FetchedAction} :
      Classified bot rules date (.attachmentActions (some actionId))
        [⟨.getAction actionId, some action⟩]
        (.submission action.inputs action.personId action.messageId date)

section Scripts

variable {bot : WebexListener} {rules : CaseRules} {templates : Templates} {date : Text}
  {event : WebexEvent} {events : WebexLog} {handled : Handled}

/-- A script that fetches first and then only fetches keeps to fetching. -/
theorem fetch_keeps {ρ : Type} {c : EventCall} {next : c.Answer → EventScript (Option ρ)}
    (isFetch : Fetches c) (after : ∀ answer, (next answer).KeepsTo Fetches) :
    ((fetch c).andThen next).KeepsTo Fetches :=
  (Script.keepsTo_perform.mpr isFetch).andThen after

/-- Up to its handler an event is only read. -/
theorem classify_keeps : (bot.classify rules date event).KeepsTo Fetches := by
  cases event with
  | messages data =>
    rw [WebexListener.classify]
    split
    · trivial
    · split
      · trivial
      · refine fetch_keeps (fun _ => nofun) fun message => ?_
        refine fetch_keeps (fun _ => nofun) fun direct => ?_
        split
        · exact fetch_keeps (fun _ => nofun) fun person => trivial
        · trivial
  | attachmentActions actionId =>
    cases actionId with
    | none => trivial
    | some actionId => exact fetch_keeps (fun _ => nofun) fun action => trivial
  | other => trivial

/-- The bot's own messages are not even read. The id of the sender comes with the event. -/
theorem classify_own {data : MessageData} (own : data.personId = some bot.meId) :
    bot.classify rules date (.messages data) = .done none := by
  rw [WebexListener.classify, if_pos own]

/-- A script that fetches and does not raise goes on with what it was answered, so the answer stands
first among its events. -/
theorem fetch_done {ρ : Type} {c : EventCall} {next : c.Answer → EventScript (Option ρ)}
    {result : ρ} (isRun : Runs ((fetch c).andThen next) events (.done (some result))) :
    ∃ answer after, events = ⟨c, some answer⟩ :: after ∧
      Runs (next answer) after (.done (some result)) := by
  rcases runs_andThen_done isRun with ⟨_, impossible⟩ | ⟨before, after, answer, rfl, asked, onwards⟩
  · cases impossible
  · rw [runs_perform_done.mp asked]
    exact ⟨answer, after, rfl, onwards⟩

/-- What was fetched for an event that is handled. The calls are gone through one after the other;
where one raises, nothing is handled. -/
theorem classify_done
    (isRun : Runs (bot.classify rules date event) events (.done (some handled))) :
    Classified bot rules date event events handled := by
  cases event with
  | messages data =>
    rw [WebexListener.classify] at isRun
    split at isRun
    · cases (runs_done.mp isRun).2
    · rename_i foreign
      split at isRun
      · cases (runs_done.mp isRun).2
      · rename_i messageId isId
        obtain ⟨message, afterMessage, same, read⟩ := fetch_done isRun
        obtain ⟨direct, afterType, sameType, typed⟩ := fetch_done read
        split at typed
        · rename_i text personId roomId processed isPerson
          obtain ⟨person, nothing, sameSender, ended⟩ := fetch_done typed
          obtain ⟨rfl, isHandled⟩ := runs_done.mp ended
          obtain ⟨roomId, isRoom, rfl⟩ := Option.map_eq_some_iff.mp (Script.done.inj isHandled).symm
          rw [same, sameType, sameSender]
          refine .message isId isPerson isRoom ?_ processed
          rintro rfl
          exact foreign isPerson
        · cases (runs_done.mp typed).2
  | attachmentActions actionId =>
    cases actionId with
    | none => cases (runs_done.mp isRun).2
    | some actionId =>
      obtain ⟨action, nothing, rfl, ended⟩ := fetch_done isRun
      obtain ⟨rfl, isHandled⟩ := runs_done.mp ended
      obtain rfl := Option.some.inj (Script.done.inj isHandled)
      exact .submission
  | other => cases (runs_done.mp isRun).2

/-- A call of a handler stands behind what was fetched and what the handler has done. The fetching
makes no call of a handler, so it has ended before. -/
theorem onEvent_call {call : RoomCall} {later : Option call.Answer → EventScript Unit}
    (isRun : Runs (bot.onEvent rules templates date event) events (.call (.room call) later)) :
    ∃ fetched acted handled next, events = fetched ++ acted.map (liftEvent EventCall.room) ∧
      Classified bot rules date event fetched handled ∧
      Runs (bot.handleEvent templates handled) acted (.call call next) ∧
      later = fun answer => (next answer).lift EventCall.room := by
  have other : ¬ Fetches (.room call) := fun fetches => fetches call rfl
  obtain ⟨fetched, after, result, rfl, classified, isRun⟩ :=
    runs_bind_call classify_keeps other isRun
  cases result with
  | none => cases (runs_done.mp isRun).2
  | some handled =>
    obtain ⟨acted, left, rfl, pending, isPlain⟩ := runs_lift isRun
    obtain ⟨made, next, rfl, same, sameNext⟩ := lift_call pending.symm
    obtain rfl := EventCall.room.inj same
    exact ⟨fetched, acted, handled, next, rfl, classify_done classified, isPlain,
      eq_of_heq sameNext⟩

/-- A message that has a text for the bot was in a direct room, or mentions the bot. -/
theorem processMessage_addressed {me : BotIdentity} {message : WebexMessage} {text : Text}
    (processed : processMessage rules me message = some text) :
    message.direct = true ∨ me.meId ∈ message.mentionedPeople := by
  rw [processMessage] at processed
  split at processed
  · cases processed
  · rename_i addressed
    rw [Bool.not_eq_true', Bool.not_eq_false, Bool.or_eq_true, List.contains_iff_mem] at addressed
    exact addressed

/-- A message that is handled was found direct or to mention the bot. -/
theorem Classified.addressed {data : MessageData} {fetched : WebexLog}
    (classified : Classified bot rules date (.messages data) fetched handled) :
    data.personId ≠ some bot.meId ∧ ∃ messageId message direct,
      ⟨.getMessage messageId, some message⟩ ∈ fetched ∧
      ⟨.getRoomType message.roomId, some direct⟩ ∈ fetched ∧
      (direct = true ∨ bot.meId ∈ message.mentionedPeople) := by
  cases classified with
  | message isId isPerson isRoom other processed =>
    refine ⟨?_, _, _, _, List.mem_cons_self, List.mem_cons_of_mem _ List.mem_cons_self,
      processMessage_addressed processed⟩
    rw [isPerson]
    exact fun same => other (Option.some.inj same)

end Scripts

/-- The calls in the log of a bot whose events are handled side by side. There are none for its
own messages; for another message a call that does more than fetch stands behind the message and
the kind of its room, which is direct or the message mentions the bot; an alert was prepared by
the handler of what was read, and its room is told about it once; and a room is deleted only for
an `implode` that was read, and only where the bot made it. -/
structure ActsWhenAddressed {ι : Type} [DecidableEq ι] (bot : WebexListener) (rules : CaseRules)
    (templates : Templates) (date : ι → Text) (event : ι → WebexEvent)
    (board : Board ι EventCall EventCall.Answer Unit) : Prop where
  own : ∀ i data, event i = .messages data → data.personId = some bot.meId →
    eventsOf i board.log = []
  addressed : ∀ i data call answer before after, event i = .messages data →
    board.log = before ++ (i, ⟨.room call, answer⟩) :: after →
      data.personId ≠ some bot.meId ∧ ∃ messageId message direct,
        ⟨.getMessage messageId, some message⟩ ∈ eventsOf i before ∧
        ⟨.getRoomType message.roomId, some direct⟩ ∈ eventsOf i before ∧
        (direct = true ∨ bot.meId ∈ message.mentionedPeople)
  raised : ∀ i call answer before after,
    board.log = before ++ (i, ⟨.room (.triggerAlert call), answer⟩) :: after →
      ∃ fetched acted handled told beyond,
        eventsOf i before = fetched ++ acted.map (liftEvent EventCall.room) ∧
        Classified bot rules (date i) (event i) fetched handled ∧
        Prepared bot.toRoomBot templates handled acted call ∧
        eventsOf i after = (told ++ beyond).map (liftEvent EventCall.room) ∧
        Announced (handled.announcement bot.config) call answer told ∧
        ∀ event ∈ beyond, IsDeletion event
  deleted : ∀ i roomId answer before after,
    board.log = before ++ (i, ⟨.room (.deleteRoom roomId), answer⟩) :: after →
      ∃ fetched acted handled,
        eventsOf i before = fetched ++ acted.map (liftEvent EventCall.room) ∧
        Classified bot rules (date i) (event i) fetched handled ∧
        Imploded bot.toRoomBot handled roomId acted

/-- However the handling of Webex events interleaves and whatever the calls come to, the bot acts
only when it is addressed.

Proof: what the log shows of an event is a run of its handling alone. A call of a handler stands
behind what was fetched for that event, which says that the bot is addressed, and behind what the
handler has done, to which the laws of `IncidentRoom` apply. -/
theorem webex_acts_when_addressed {ι : Type} [DecidableEq ι] (bot : WebexListener)
    (rules : CaseRules) (templates : Templates) (date : ι → Text) (event : ι → WebexEvent)
    (turns : List (Turn ι EventCall EventCall.Answer)) :
    ActsWhenAddressed bot rules templates date event
      (run step (start fun i => bot.onEvent rules templates (date i) (event i)) turns) := by
  have logged := logged_run (fun i => bot.onEvent rules templates (date i) (event i)) turns
  constructor
  · intro i data isMessage own
    have isRun := logged i
    dsimp only at isRun
    rw [isMessage, WebexListener.onEvent, classify_own own] at isRun
    exact (runs_done.mp isRun).1
  · intro i data call answer before after isMessage parts
    obtain ⟨later, isRun, _⟩ := logged_at logged parts
    obtain ⟨fetched, acted, handled, _, split, classified, _⟩ := onEvent_call isRun
    rw [isMessage] at classified
    obtain ⟨foreign, messageId, message, direct, isRead, isTyped, addressed⟩ :=
      classified.addressed
    rw [split]
    exact ⟨foreign, messageId, message, direct, List.mem_append_left _ isRead,
      List.mem_append_left _ isTyped, addressed⟩
  · intro i call answer before after parts
    obtain ⟨later, isRun, goesOn⟩ := logged_at logged parts
    obtain ⟨fetched, acted, handled, next, split, classified, raises, rfl⟩ := onEvent_call isRun
    obtain ⟨plain, left, isAfter, _, onwards⟩ := runs_lift goesOn
    obtain ⟨prepared, announces⟩ := handleEvent_alert raises
    obtain ⟨told, beyond, rfl, announced, deletions⟩ := announces answer plain left onwards
    exact ⟨fetched, acted, handled, told, beyond, split, classified, prepared, isAfter, announced,
      deletions⟩
  · intro i roomId answer before after parts
    obtain ⟨later, isRun, _⟩ := logged_at logged parts
    obtain ⟨fetched, acted, handled, _, split, classified, deletes, _⟩ := onEvent_call isRun
    exact ⟨fetched, acted, handled, split, classified, handleEvent_delete deletes⟩

end Thaum.Bots
