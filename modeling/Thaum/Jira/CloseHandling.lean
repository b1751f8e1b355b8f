import Thaum.Jira.StatusWebhook
import Thaum.Library.PyNumbers
import Thaum.Library.PyTimestamp
import Thaum.Settings.AlertConfig

/-!
# Closing an alert shortly after it was opened

On a Close the webhook says a message in the room of the alert if it was created a short
while ago. `_alert_created_at_utc` makes an integer of `createdAt` and a time of the integer.
It expects the first step to raise `TypeError` or `ValueError`; the `OverflowError` of an
infinity and all that the second step raises come through.

A value denotes the instant that the two conversions give. In the years that `datetime` has
they give one that is the value in milliseconds up to the rounding of the float between.
-/

namespace Thaum.Jira

open PyText PyJson PyNumbers PyTimestamp JsonText Lookup

/-- What `int` sees of a value; it does not look into lists and dictionaries. -/
def numberSeen : Json → JsonText.Value
  | .null => .null
  | .bool b => .bool b
  | .int n => .int n
  | .float f => .float f
  | .str s => .str (ofText s)
  | .arr _ => .arr []
  | .obj _ => .obj []

/-- `_alert_created_at_utc` of the value of `createdAt`. -/
def alertCreatedAtUtc : Json → CreatedAt
  | .null => .unknown
  | raw =>
    match pyInt (numberSeen raw) with
    | .error .typeError | .error .valueError => .unknown
    | .error .overflowError => .raised
    | .ok ms =>
      match fromMilliseconds ms with
      | some instant => .at instant
      | none => .raised

/-- `timedelta(minutes=minutes)` in microseconds, `none` where it raises. -/
def timedeltaMinutes (minutes : Int) : Option Int :=
  if -999999999 ≤ minutes / 1440 ∧ minutes / 1440 ≤ 999999999 then some (minutes * 60000000)
  else none

variable (bot : Bot) (cfg : StatusConfig) (outside : Surroundings) (minutes : Int)

/-- What a delivery meets outside the plugin, with the reading of the creation time. -/
def Surroundings.reading : Surroundings := { outside with createdAt := alertCreatedAtUtc }

/-- `handle_jira_status_webhook` on the Close of a mapped alert, where
`status_accidental_close_minutes` is turned into a `timedelta`. -/
def handleClose (commits : Bool) (payload : List (Text × Json)) (first second : AlertMap) :
    Handled :=
  match timedeltaMinutes minutes with
  | some window =>
    handleJiraStatusWebhook bot { cfg with closeWindow := window } outside.reading commits payload
      first second
  | none => .raised

/-- The trimmed Jira id of an alert. -/
def alertIdOf (alert : List (Text × Json)) : Text :=
  strip (strOrBlank outside.rendering (get "alertId".toList alert))

/-- Its trimmed alias. -/
def aliasOf (alert : List (Text × Json)) : Text :=
  strip (strOrBlank outside.rendering (get "alias".toList alert))

/-- The room and sender that are found for an alert. -/
def closedRoom (alert : List (Text × Json)) (first second : AlertMap) : Text × Text :=
  resolveRoom bot outside (alertIdOf outside alert) (aliasOf outside alert) first second

/-- The payload is the Close of an alert with an id and a room. -/
structure MappedClose (payload alert : List (Text × Json)) (first second : AlertMap) :
    Prop where
  action : strOrBlank outside.rendering (get "action".toList payload) = "Close".toList
  isAlert : (get "alert".toList payload).fields? = some alert
  given : alertIdOf outside alert ≠ []
  roomed : (closedRoom bot outside alert first second).1 ≠ []

/-- How a Close ends once its context is there. -/
def closeOutcome (window : Int) (roomId : Text) (context : StatusContext) :
    CreatedAt → Handled
  | .raised => .raised
  | .unknown => .silent
  | .at instant =>
    if outside.now - instant < window then
      match sayStatusMessage cfg outside roomId cfg.statusAccidentalCloseTemplate context with
      | none => .raised
      | some said => .said said context
    else .silent

/-- The value denotes an instant, in microseconds since the epoch. -/
def Denotes (raw : Json) (instant : Int) : Prop :=
  ∃ ms, pyInt (numberSeen raw) = .ok ms ∧ fromMilliseconds ms = some instant

/-- A Close does not raise, says the accidental-close message in the room exactly if its
alert is younger than the window, and is silent where no instant is denoted. -/
structure ClosedTotally (roomId : Text) (raw : Json) (handled : Handled) : Prop where
  total : handled ≠ .raised
  tells : (∃ said context, handled = .said said context) ↔
    ∃ instant, Denotes raw instant ∧ outside.now - instant < minutes * 60000000
  message : ∀ said context, handled = .said said context →
    sayStatusMessage cfg outside roomId cfg.statusAccidentalCloseTemplate context = some said
  silent : (∀ instant, ¬ Denotes raw instant) → handled = .silent

/-- Nothing raises: the creation time is not infinite and no integer outside the calendar,
the user name is a string or blank, and the minutes fit a `timedelta`. -/
structure Closable (alert : List (Text × Json)) : Prop where
  finite : ∀ negative, get "createdAt".toList alert ≠ .float (.infinity negative)
  dated : ∀ ms, pyInt (numberSeen (get "createdAt".toList alert)) = .ok ms → InCalendar ms
  named : (get "username".toList alert).truthy = true →
    ∃ username, get "username".toList alert = .str username
  fits : -999999999 ≤ minutes / 1440 ∧ minutes / 1440 ≤ 999999999

variable {bot cfg outside minutes} {raw : Json} {alert payload : List (Text × Json)}

/-- `int` overflows at the infinities only; whatever else it refuses it refuses with an error that
is caught. -/
theorem pyInt_overflow :
    pyInt (numberSeen raw) = .error .overflowError ↔
      ∃ negative, raw = .float (.infinity negative) := by
  cases raw with
  | null | bool | int | arr | obj => simp [numberSeen, pyInt]
  | str s =>
    simp only [numberSeen, pyInt, reduceCtorEq, exists_false, iff_false]
    cases intOfStr (ofText s) <;> simp
  | float f => cases f <;> simp [numberSeen, pyInt]

/-- The creation time is at an instant exactly if the value denotes it. -/
theorem alertCreatedAtUtc_at {instant : Int} :
    alertCreatedAtUtc raw = .at instant ↔ Denotes raw instant := by
  unfold alertCreatedAtUtc Denotes
  split
  · simp [numberSeen, pyInt]
  · split
    · rename_i failed
      simp [failed]
    · rename_i failed
      simp [failed]
    · rename_i failed
      simp [failed]
    · rename_i ms read
      cases denoted : fromMilliseconds ms with
      | some found => simp [read, denoted]
      | none => simp [read, denoted]

/-- Reading it raises exactly for the infinities and the integers outside the calendar: the first
conversion overflows, or the second one does. -/
theorem alertCreatedAtUtc_raised :
    alertCreatedAtUtc raw = .raised ↔
      (∃ negative, raw = .float (.infinity negative)) ∨
        ∃ ms, pyInt (numberSeen raw) = .ok ms ∧ ¬ InCalendar ms := by
  rw [← pyInt_overflow]
  unfold alertCreatedAtUtc
  split
  · simp [numberSeen, pyInt]
  · split
    · rename_i failed
      simp [failed]
    · rename_i failed
      simp [failed]
    · rename_i failed
      simp [failed]
    · rename_i ms read
      have dated := @fromMilliseconds_isSome ms
      cases denoted : fromMilliseconds ms with
      | some found =>
        rw [denoted] at dated
        simp [read, dated.mp rfl]
      | none =>
        rw [denoted] at dated
        have outsideOf : ¬ InCalendar ms := fun inside => Bool.false_ne_true (dated.mpr inside)
        simp [read, outsideOf]

/-- The responder's name is found unless the user name is something other than a string, which has
no `strip`. -/
theorem responderNameAndPerson_isSome {username : Json} :
    (responderNameAndPerson bot outside username).isSome = true ↔
      (username.truthy = true → ∃ name, username = .str name) := by
  unfold responderNameAndPerson
  by_cases given : username.truthy = true
  · rw [if_pos given]
    cases username with
    | str name =>
      dsimp only
      constructor
      · intro _ _
        exact ⟨name, rfl⟩
      · intro _
        split
        · rfl
        · split
          · split <;> rfl
          · rfl
    | null | bool | int | float | arr | obj => simp [given]
  · rw [if_neg given]
    simp [given]

/-- Rendering succeeds for every context, so there is always something to say. -/
theorem sayStatusMessage_isSome {roomId template : Text} {context : StatusContext}
    (renders : ∀ context, (outside.render template context).isSome = true) :
    (sayStatusMessage cfg outside roomId template context).isSome = true := by
  unfold sayStatusMessage
  obtain ⟨markdown, rendered⟩ := Option.isSome_iff_exists.mp (renders context)
  rw [rendered]
  dsimp only
  split
  · rw [Option.isSome_map]
    exact renders _
  · rfl

section Mapped

variable {commits : Bool} {first second : AlertMap} {window : Int} {context : StatusContext}

/-- The handling of a Close of a mapped alert is that of its status, with the minutes as a
window. -/
theorem handleClose_status (close : MappedClose bot outside payload alert first second)
    (held : timedeltaMinutes minutes = some window) :
    handleClose bot cfg outside minutes commits payload first second =
      handleStatus bot { cfg with closeWindow := window } outside.reading "Close".toList
        (alertIdOf outside alert) (aliasOf outside alert) alert first second := by
  have action : strOrBlank outside.reading.rendering (get "action".toList payload) =
      "Close".toList := close.action
  have notCreate : "Close".toList ≠ "Create".toList := by decide
  simp only [handleClose, held, handleJiraStatusWebhook, action, close.isAlert,
    Option.getD_some, notCreate, if_false]
  rfl

/-- Where the responder's name cannot be found, it raises, before the creation time is looked at. -/
theorem handleClose_nameless (close : MappedClose bot outside payload alert first second)
    (nameless : responderNameAndPerson bot outside (get "username".toList alert) = none) :
    handleClose bot cfg outside minutes commits payload first second = .raised := by
  cases held : timedeltaMinutes minutes with
  | none => simp only [handleClose, held]
  | some window =>
    have none : ∀ senderName, statusMessageContext bot { cfg with closeWindow := window }
        outside.reading senderName alert = none := fun _ => by
      rw [statusMessageContext, Option.map_eq_none_iff]
      exact nameless
    rw [handleClose_status close held, handleStatus, if_neg close.given]
    simp only [none]
    exact if_neg close.roomed

/-- Otherwise the creation time decides what is said, or that it raises. -/
theorem handleClose_context (close : MappedClose bot outside payload alert first second)
    (held : timedeltaMinutes minutes = some window)
    (isContext : statusMessageContext bot cfg outside
      (closedRoom bot outside alert first second).2 alert = some context) :
    handleClose bot cfg outside minutes commits payload first second =
      closeOutcome cfg outside window (closedRoom bot outside alert first second).1 context
        (alertCreatedAtUtc (get "createdAt".toList alert)) := by
  have sameContext : statusMessageContext bot { cfg with closeWindow := window } outside.reading
      (closedRoom bot outside alert first second).2 alert = some context := isContext
  have sameRoom : resolveRoom bot outside.reading (alertIdOf outside alert)
      (aliasOf outside alert) first second = closedRoom bot outside alert first second := rfl
  rw [handleClose_status close held, handleStatus, if_neg close.given]
  simp only [sameRoom, sameContext, if_neg close.roomed]
  have actions : "Close".toList ≠ "Acknowledge".toList ∧ "Close".toList ≠ "UnAcknowledge".toList ∧
      "Close".toList ≠ "Escalate".toList := by decide
  have created : outside.reading.createdAt = alertCreatedAtUtc := rfl
  simp only [statusTemplate, actions, if_false, if_true, created]
  cases alertCreatedAtUtc (get "createdAt".toList alert) with
  | raised => rfl
  | unknown => rfl
  | «at» instant =>
    have sameClock : outside.reading.now = outside.now := rfl
    by_cases recent : outside.now - instant < window
    · have sameSaid : sayStatusMessage { cfg with closeWindow := window } outside.reading =
          sayStatusMessage cfg outside := rfl
      cases isSaid : sayStatusMessage cfg outside (closedRoom bot outside alert first second).1
          cfg.statusAccidentalCloseTemplate context with
      | none => simp only [closeOutcome, sameClock, recent, if_true, sameSaid, isSaid]
      | some said => simp only [closeOutcome, sameClock, recent, if_true, sameSaid, isSaid]
    · simp only [closeOutcome, sameClock, recent, if_false]

/-- The context is there unless the user name is something other than a string. -/
theorem statusMessageContext_isSome {senderName : Text} :
    (statusMessageContext bot cfg outside senderName alert).isSome = true ↔
      ((get "username".toList alert).truthy = true →
        ∃ name, get "username".toList alert = .str name) := by
  rw [statusMessageContext, Option.isSome_map, responderNameAndPerson_isSome]

/-- What cannot be closed raises: at the minutes, at the user name or at the creation time. -/
theorem handleClose_raises (close : MappedClose bot outside payload alert first second)
    (unclosable : ¬ Closable minutes alert) :
    handleClose bot cfg outside minutes commits payload first second = .raised := by
  by_cases fits : -999999999 ≤ minutes / 1440 ∧ minutes / 1440 ≤ 999999999
  · have held : timedeltaMinutes minutes = some (minutes * 60000000) := if_pos fits
    by_cases named : (get "username".toList alert).truthy = true →
        ∃ name, get "username".toList alert = .str name
    · obtain ⟨context, isContext⟩ := Option.isSome_iff_exists.mp
        ((@statusMessageContext_isSome bot cfg outside alert
          (closedRoom bot outside alert first second).2).mpr named)
      have raised : alertCreatedAtUtc (get "createdAt".toList alert) = .raised := by
        rw [alertCreatedAtUtc_raised]
        by_contra neither
        rw [not_or] at neither
        refine unclosable ⟨fun negative isInfinite => neither.1 ⟨negative, isInfinite⟩, ?_, named,
          fits⟩
        intro ms read
        by_contra outsideOf
        exact neither.2 ⟨ms, read, outsideOf⟩
      rw [handleClose_context close held isContext, raised, closeOutcome]
    · have nameless : ¬ (responderNameAndPerson bot outside
          (get "username".toList alert)).isSome = true :=
        fun found => named (responderNameAndPerson_isSome.mp found)
      exact handleClose_nameless close (Option.not_isSome_iff_eq_none.mp nameless)
  · have overflow : timedeltaMinutes minutes = none := if_neg fits
    simp only [handleClose, overflow]

/-- What can be closed is decided by the instant of its creation. -/
theorem handleClose_closable (close : MappedClose bot outside payload alert first second)
    (closable : Closable minutes alert) :
    ∃ context, handleClose bot cfg outside minutes commits payload first second =
      closeOutcome cfg outside (minutes * 60000000)
        (closedRoom bot outside alert first second).1 context
        (alertCreatedAtUtc (get "createdAt".toList alert)) := by
  obtain ⟨context, isContext⟩ := Option.isSome_iff_exists.mp
    ((@statusMessageContext_isSome bot cfg outside alert
      (closedRoom bot outside alert first second).2).mpr closable.named)
  exact ⟨context, handleClose_context close (if_pos closable.fits) isContext⟩

variable {roomId : Text} {said : Said}

/-- A Close whose creation time is unknown is handled totally, as nothing is said of it. -/
theorem closedTotally_unknown (created : alertCreatedAtUtc raw = .unknown) :
    ClosedTotally cfg outside minutes roomId raw
      (closeOutcome cfg outside (minutes * 60000000) roomId context .unknown) := by
  refine ⟨by simp [closeOutcome], ?_, by simp [closeOutcome], fun _ => rfl⟩
  refine iff_of_false (by simp [closeOutcome]) ?_
  rintro ⟨instant, denoted, -⟩
  rw [← alertCreatedAtUtc_at, created] at denoted
  cases denoted

/-- So is one whose alert was created at an instant, if there is something to say: the message is
said within the window and not after it. -/
theorem closedTotally_at {instant : Int} (created : alertCreatedAtUtc raw = .at instant)
    (isSaid : sayStatusMessage cfg outside roomId cfg.statusAccidentalCloseTemplate context =
      some said) :
    ClosedTotally cfg outside minutes roomId raw
      (closeOutcome cfg outside (minutes * 60000000) roomId context (.at instant)) := by
  have denoted : Denotes raw instant := alertCreatedAtUtc_at.mp created
  by_cases recent : outside.now - instant < minutes * 60000000
  · have outcome : closeOutcome cfg outside (minutes * 60000000) roomId context (.at instant) =
        .said said context := by
      simp only [closeOutcome, recent, if_true, isSaid]
    rw [outcome]
    refine ⟨by simp, ?_, ?_, fun silent => absurd denoted (silent instant)⟩
    · exact iff_of_true ⟨said, context, rfl⟩ ⟨instant, denoted, recent⟩
    · intro other otherContext same
      obtain ⟨rfl, rfl⟩ := Handled.said.inj same
      exact isSaid
  · have outcome : closeOutcome cfg outside (minutes * 60000000) roomId context (.at instant) =
        .silent := by
      simp only [closeOutcome, recent, if_false]
    rw [outcome]
    refine ⟨by simp, ?_, by simp, fun _ => rfl⟩
    refine iff_of_false (by simp) ?_
    rintro ⟨other, also, recently⟩
    rw [← alertCreatedAtUtc_at, created] at also
    exact recent (CreatedAt.at.inj also ▸ recently)

/-- What is closable has a creation time that does not raise. -/
theorem Closable.created (closable : Closable minutes alert) :
    alertCreatedAtUtc (get "createdAt".toList alert) ≠ .raised := by
  intro raised
  rcases alertCreatedAtUtc_raised.mp raised with ⟨negative, isInfinite⟩ | ⟨ms, read, outsideOf⟩
  · exact closable.finite negative isInfinite
  · exact outsideOf (closable.dated ms read)

/-- With the default template, a Close of a mapped alert is handled totally exactly if it is
closable.

Proof: what is not closable raises. What is closable is decided by the reading of its creation time:
at an instant the default template always gives something to say, and without one nothing is
said. -/
theorem closed_totally_iff (close : MappedClose bot outside payload alert first second)
    (template : cfg.statusAccidentalCloseTemplate = Settings.defaultStatusAccidentalClose)
    (renders : ∀ context,
      (outside.render Settings.defaultStatusAccidentalClose context).isSome = true) :
    ClosedTotally cfg outside minutes (closedRoom bot outside alert first second).1
        (get "createdAt".toList alert)
        (handleClose bot cfg outside minutes commits payload first second) ↔
      Closable minutes alert := by
  constructor
  · intro closed
    by_contra unclosable
    exact closed.total (handleClose_raises close unclosable)
  · intro closable
    obtain ⟨context, handled⟩ := @handleClose_closable bot cfg outside minutes alert payload
      commits first second close closable
    rw [handled]
    cases created : alertCreatedAtUtc (get "createdAt".toList alert) with
    | raised => exact absurd created closable.created
    | unknown => exact closedTotally_unknown created
    | «at» instant =>
      obtain ⟨said, isSaid⟩ := Option.isSome_iff_exists.mp
        (@sayStatusMessage_isSome cfg outside (closedRoom bot outside alert first second).1
          cfg.statusAccidentalCloseTemplate context (template ▸ renders))
      exact closedTotally_at created isSaid

end Mapped

section Example

/-- The table with an alert of `exampleBot`. -/
def oneAlert : AlertMap :=
  AlertMap.empty.write
    { botKey := "sre".toList, alertAlias := "A1".toList, shortId := "C3".toList
      roomId := "sres".toList, jiraAlertId := some "J1".toList, senderName := "Bo".toList }
    (by intro second stored; cases stored)

/-- A Close of it, with the time of its creation. -/
def closedAlert (createdAt : Json) : List (Text × Json) :=
  [("alertId".toList, .str "J1".toList), ("createdAt".toList, createdAt)]

/-- The payload around it. -/
def closePayload (createdAt : Json) : List (Text × Json) :=
  [("action".toList, .str "Close".toList), ("alert".toList, .obj (closedAlert createdAt))]

/-- The default template for a Close. -/
def closeConfig : StatusConfig where
  statusMentions := true
  sendEscalateMsg := false
  statusAckTemplate := []
  statusUnackTemplate := []
  statusEscalateTemplate := []
  statusAccidentalCloseTemplate := Settings.defaultStatusAccidentalClose
  closeWindow := 0

/-- What the template gives, two minutes after 1700000000. -/
def afterTwoMinutes : Surroundings where
  rendering := asciiRendering
  scan := .stored
  person := .raised
  formatMention := ThaumPerson.email
  render := fun _ context => some
    (context.responderMention ++ " closed the alert shortly after it was opened. ".toList ++
      "If you meant to respond, please use **Acknowledge** in the Jira app so ".toList ++
      context.senderMention ++ " knows you are on the way.".toList)
  createdAt := fun _ => .unknown
  now := 1700000120000000

/-- The alert of the example is mapped. -/
theorem mappedClose_closedAlert (createdAt : Json) :
    MappedClose exampleBot afterTwoMinutes (closePayload createdAt) (closedAlert createdAt)
      oneAlert oneAlert where
  action := rfl
  isAlert := rfl
  given := by
    change "J1".toList ≠ []
    decide
  roomed := by
    change "sres".toList ≠ []
    decide

/-- An infinite creation time raises: `int` of it is an `OverflowError`, which is not caught. -/
theorem infinite_time_raises :
    handleClose exampleBot closeConfig afterTwoMinutes 10 true
        (closePayload (.float (.infinity false))) oneAlert oneAlert = .raised ∧
      ¬ ClosedTotally closeConfig afterTwoMinutes 10 "sres".toList (.float (.infinity false))
        (handleClose exampleBot closeConfig afterTwoMinutes 10 true
          (closePayload (.float (.infinity false))) oneAlert oneAlert) := by
  have raised : handleClose exampleBot closeConfig afterTwoMinutes 10 true
      (closePayload (.float (.infinity false))) oneAlert oneAlert = .raised := rfl
  exact ⟨raised, fun closed => closed.total raised⟩

/-- An alert of two minutes ago is told of. -/
theorem recent_close_told :
    ∃ said context, handleClose exampleBot closeConfig afterTwoMinutes 10 true
      (closePayload (.int 1700000000000)) oneAlert oneAlert = .said said context := by
  have denoted : fromMilliseconds 1700000000000 = some (1000 * 1700000000000) :=
    fromMilliseconds_exact (by decide)
  have closable : Closable 10 (closedAlert (.int 1700000000000)) := by
    refine ⟨?_, ?_, fun truthy => absurd truthy (by decide), by decide⟩
    · intro negative same
      cases same
    · intro ms read
      obtain rfl := Except.ok.inj read
      exact fromMilliseconds_isSome.mp (denoted ▸ rfl)
  have close := mappedClose_closedAlert (.int 1700000000000)
  have closed := (@closed_totally_iff exampleBot closeConfig afterTwoMinutes 10 _ _ true
    oneAlert oneAlert close rfl (fun _ => rfl)).mpr closable
  exact closed.tells.mpr ⟨_, ⟨1700000000000, rfl, denoted⟩, by decide⟩

end Example

end Thaum.Jira
