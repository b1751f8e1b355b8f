import Thaum.Bots.IncidentRoom
import Thaum.Jira.ShortIds

/-!
# Alerts of incident rooms

The handlers of a bot raise their alerts through the plugin, beside each other and beside
the webhooks of Jira. While a handler waits for `trigger_alert`, the POST of its alert may be
accepted and its row recorded; the call returns where both went through and raises otherwise.

Where no short id is drawn twice, the id that a room is told leads back to the alert that was
raised in it: `ack` with the id acknowledges that alert, and its status messages go to that
room.
-/

namespace Thaum.Jira.RoomAlerts

open PyText KeyedRows GuardedRuns Scripts Bots AlertRuns

variable {ι : Type}

/-- The alerts of a bot, no two of which share a short id or a Jira id. -/
structure Drawn (alert : ι → TriggeredAlert) (plugin : Bot) : Prop where
  separate : Separate alert
  shortIds : ∀ i j, (alert i).shortId.text = (alert j).shortId.text → i = j
  ofBot : ∀ i, (alert i).botKey = plugin.botKey

namespace Drawn

variable {alert : ι → TriggeredAlert} {plugin : Bot} {jira : RunState ι} {i j : ι}

/-- Each alert has a bot and a room with ids. -/
theorem named (drawn : Drawn alert plugin) (i : ι) : Named (alert i) := by
  obtain ⟨trimmed, keyed⟩ := drawn.separate.botKeys i
  exact ⟨trimmed.trans_ne keyed, drawn.separate.rooms i⟩

/-- Their Jira ids are apart. -/
theorem idsApart (drawn : Drawn alert plugin) : IdsApart alert := by
  intro i j same
  rw [drawn.separate.ids i j same]

/-- No two of them share a row, as an alias ends with the short id. -/
theorem eq_of_key (drawn : Drawn alert plugin) (same : (alert i).key = (alert j).key) : i = j :=
  drawn.shortIds i j (shortId_of_key same)

/-- The alert returned last with a short id is the only one that has it. -/
theorem eq_of_latest (drawn : Drawn alert plugin)
    (latest : latestReturned alert jira (alert i).shortId.text = some j) : j = i :=
  drawn.shortIds j i (latestReturned_shortId latest)

/-- An alert that returned is the latest with its short id. -/
theorem latest_of_returned (drawn : Drawn alert plugin) (returned : i ∈ jira.returned) :
    latestReturned alert jira (alert i).shortId.text = some i := by
  cases latest : latestReturned alert jira (alert i).shortId.text with
  | none =>
    have missing := List.find?_eq_none.mp latest i returned
    simp at missing
  | some j => rw [drawn.eq_of_latest latest]

/-- A posted alert is the one that its row leads to: the row has its Jira id, or Jira answers the
alias with it. -/
theorem aimed (drawn : Drawn alert plugin) (consistent : Consistent alert jira)
    (isPosted : i ∈ jira.posted) : aim alert jira i = some (alert i).jiraId.text := by
  rw [aim]
  cases linked : linkOf (alert i) jira.map with
  | some id =>
    obtain ⟨row, isRow, isId⟩ := Option.bind_eq_some_iff.mp linked
    obtain ⟨stored, sameKey, _⟩ := consistent.rowOf_facts isRow
    obtain ⟨j, _, keyed, rfl⟩ := (consistent.rows _ List.mem_cons_self row stored).linked id isId
    rw [drawn.eq_of_key (sameKey.symm.trans keyed), Option.some_or]
  | none =>
    have found : (latestPosted alert jira (alert i).alertAlias).isSome = true := by
      rw [latestPosted, List.find?_isSome]
      exact ⟨i, isPosted, by simp⟩
    obtain ⟨latest, isLatest⟩ := Option.isSome_iff_exists.mp found
    have sameBot : (alert latest).botKey = (alert i).botKey :=
      (drawn.ofBot latest).trans (drawn.ofBot i).symm
    have sameKey : (alert latest).key = (alert i).key :=
      Prod.ext (congrArg strip sameBot) (latestPosted_alias isLatest)
    rw [isLatest, drawn.eq_of_key sameKey]
    rfl

/-- Every step is safe where short ids are drawn once. What the conditions of `Safe` exclude takes
two alerts with one short id. -/
theorem safe (drawn : Drawn alert plugin) (consistent : Consistent alert jira)
    (event : RunEvent alert) : Safe alert jira event := by
  have fits (i : ι) : Fits alert jira i := by
    intro latest isLatest
    rw [drawn.eq_of_latest isLatest]
  cases event with
  | post i => exact fun _ _ _ _ => fits i
  | webhook i delivery lag => exact fun _ _ _ => fits i
  | record i commits =>
    intro isPending _
    constructor
    · exact Or.inl (drawn.named i)
    · exact drawn.aimed consistent (consistent.pendingPosted i isPending)
    · intro j same _
      rw [drawn.shortIds j i same]

end Drawn

/-- The handlers of a bot, with the alert map and what Jira has accepted. -/
structure Deployment (ι : Type) where
  board : Board ι RoomCall RoomCall.Answer Unit
  jira : RunState ι

/-- A handler makes its next call, or something happens between the plugin and Jira. -/
inductive Happening (alert : ι → TriggeredAlert) where
  | turn : Turn ι RoomCall RoomCall.Answer → Happening alert
  | jira : RunEvent alert → Happening alert

/-- The alert may be the one that a call of `trigger_alert` posts. -/
def PostedBy (alert : TriggeredAlert) (call : TriggerCall) : Prop :=
  alert.roomId = call.roomId ∧ alert.senderName = call.sender.forDisplay

instance (alert : TriggeredAlert) (call : TriggerCall) : Decidable (PostedBy alert call) :=
  inferInstanceAs (Decidable (_ ∧ _))

/-- The call of `trigger_alert` that a handler waits for. -/
def waiting? (board : Board ι RoomCall RoomCall.Answer Unit) (i : ι) : Option TriggerCall :=
  match board.tasks i with
  | .call (.triggerAlert call) _ => some call
  | _ => none

/-- A handler waits for an alert if its next call is `trigger_alert`. -/
theorem waiting?_iff {board : Board ι RoomCall RoomCall.Answer Unit} {i : ι} {call : TriggerCall} :
    waiting? board i = some call ↔ ∃ next, board.tasks i = .call (.triggerAlert call) next := by
  unfold waiting?
  constructor
  · intro waits
    split at waits
    · rename_i isCall
      obtain rfl := Option.some.inj waits
      exact ⟨_, isCall⟩
    · cases waits
  · rintro ⟨next, isCall⟩
    rw [isCall]

variable [DecidableEq ι] (alert : ι → TriggeredAlert)

/-- What a call comes to: `trigger_alert` returns the short id and the alias of an alert that
was recorded. -/
def served (jira : RunState ι) (i : ι) (answers : (c : RoomCall) → Option c.Answer) :
    (c : RoomCall) → Option c.Answer
  | .triggerAlert _ =>
    if i ∈ jira.returned then some ((alert i).shortId.text, some (alert i).alertAlias) else none
  | c => answers c

/-- An alert is posted only for a call that is waited for. -/
def possible (board : Board ι RoomCall RoomCall.Answer Unit) : RunEvent alert → Bool
  | .post i => (waiting? board i).any fun call => PostedBy (alert i) call
  | _ => true

/-- What happens, where it is possible. -/
def step (state : Deployment ι) : Happening alert → Deployment ι
  | .turn (i, answers) =>
    -- Between the POST and the row the call goes on.
    if i ∈ state.jira.pending then state
    else
      { state with board := Scripts.step state.board (i, served alert state.jira i answers) }
  | .jira event =>
    if possible alert state.board event then
      { state with jira := AlertRuns.step state.jira event }
    else state

/-- The handlers start with nothing posted. -/
def start (bot : RoomBot) (templates : Templates) (handled : ι → Bots.Handled) : Deployment ι where
  board := Scripts.start fun i => bot.handleEvent templates (handled i)
  jira := .initial .empty

variable {alert} {i j : ι} {bot : RoomBot} {templates : Templates} {handled : ι → Bots.Handled}
  {state : Deployment ι} {board : Board ι RoomCall RoomCall.Answer Unit} {call : TriggerCall}

section Once

variable {event : Bots.Handled} {events : List RoomEvent} {rest : RoomScript Unit}
  {answer : Option (Text × Option Text)}

/-- Once a handler has raised its alert it neither raises nor waits for another. What follows the
alert is what the room is told and deletions. -/
theorem alert_once {before after : List RoomEvent}
    (isRun : Runs (bot.handleEvent templates event)
      (before ++ ⟨.triggerAlert call, answer⟩ :: after) rest) :
    (∀ other answer, ⟨.triggerAlert other, answer⟩ ∉ after) ∧
      ∀ other next, rest ≠ .call (.triggerAlert other) next := by
  obtain ⟨next, raises, goesOn⟩ := runs_at.mp isRun
  obtain ⟨_, follows⟩ := handleEvent_alert raises
  have quiet {after : List RoomEvent} {rest : RoomScript Unit}
      (goesOn : Runs (next answer) after rest) (other : TriggerCall)
      (given : Option (Text × Option Text)) : ⟨.triggerAlert other, given⟩ ∉ after := by
    intro listed
    obtain ⟨told, beyond, rfl, announced, deletions⟩ := follows answer after rest goesOn
    rcases List.mem_append.mp listed with isTold | isBeyond
    · rcases announced with rfl | ⟨_, _, text, outcome, _, _, rfl⟩
      · cases isTold
      · cases List.mem_singleton.mp isTold
    · obtain ⟨messageId, impossible⟩ := deletions _ isBeyond
      cases impossible
  constructor
  · exact quiet goesOn
  · rintro other later rfl
    have further := goesOn.append (.answered (.here (later none)))
    exact quiet further other none (List.mem_append_right _ List.mem_cons_self)

/-- A handler raises one alert at most, so its log names the alert. -/
theorem alert_unique {other : TriggerCall} {given : Option (Text × Option Text)}
    (isRun : Runs (bot.handleEvent templates event) events rest)
    (listed : ⟨.triggerAlert call, answer⟩ ∈ events)
    (alsoListed : ⟨.triggerAlert other, given⟩ ∈ events) : other = call := by
  obtain ⟨before, after, rfl⟩ := List.append_of_mem listed
  rcases List.mem_append.mp alsoListed with isBefore | isAfter
  · obtain ⟨front, between, rfl⟩ := List.append_of_mem isBefore
    rw [List.append_assoc, List.cons_append] at isRun
    exact absurd (List.mem_append_right _ List.mem_cons_self) ((alert_once isRun).1 call answer)
  · rcases List.mem_cons.mp isAfter with same | later
    · cases same
      rfl
    · exact absurd later ((alert_once isRun).1 other given)

end Once

/-- Something that is possible happens at Jira. -/
theorem step_possible {event : RunEvent alert}
    (isPossible : possible alert state.board event = true) :
    step alert state (.jira event) =
      { state with jira := AlertRuns.step state.jira event } := by
  rw [step, if_pos isPossible]

section Trigger

variable {rendering : PyJson.Rendering} {cfg : JiraConfig} {plugin : Bot} {calls : AuxiliaryCalls}
  {now : Nat} {post : PyRequests.Response} {commits : Bool} {summary : Text} {names : TeamNames}
  {db : Lookup.IdentityDb}

/-- An alert is accepted and its row is recorded if that commits. -/
def postAndRecord (alert : ι → TriggeredAlert) (jira : RunState ι) (i : ι) (commits : Bool) :
    RunState ι :=
  run AlertRuns.step jira [(.post i : RunEvent alert), .record i commits]

/-- The outcome of the two steps for the call that waits for them: the alert is returned, or the
call raises. -/
theorem postAndRecord_outcome {jira : RunState ι} (commits : Bool) (fresh : i ∉ jira.posted)
    (unreturned : i ∉ jira.returned) :
    let recorded := upsertPendingRow commits (alert i).botKey (alert i).alertAlias
      (alert i).shortId.text (alert i).roomId (alert i).senderName jira.map
    (postAndRecord alert jira i commits).map = recorded.getD jira.map ∧
      (i ∈ (postAndRecord alert jira i commits).returned ↔ recorded.isSome = true) := by
  intro recorded
  have posted : AlertRuns.step jira (.post i : RunEvent alert) =
      { jira with
        posted := i :: jira.posted
        pending := i :: jira.pending
        past := jira.map :: jira.past } := by
    rw [AlertRuns.step, advance, if_neg fresh]
  rw [postAndRecord, run_cons, run_cons, run_nil, posted, AlertRuns.step, advance,
    if_pos List.mem_cons_self]
  dsimp only
  split
  · rename_i map isRecorded
    rw [show recorded = some map from isRecorded]
    exact ⟨rfl, iff_of_true List.mem_cons_self rfl⟩
  · rename_i refused
    rw [show recorded = none from refused]
    exact ⟨rfl, iff_of_false unreturned Bool.false_ne_true⟩

/-- The POST and the row of an accepted alert are what `trigger_alert` does, and the call is
answered as it returns. This connects the steps of the run to the function of the plugin. -/
theorem triggerAlert_steps (answers : (c : RoomCall) → Option c.Answer)
    (waits : waiting? state.board i = some call) (postedBy : PostedBy (alert i) call)
    (ofBot : (alert i).botKey = plugin.botKey) (fresh : i ∉ state.jira.posted)
    (unreturned : i ∉ state.jira.returned) (accepted : post.ok = true)
    (isPosted : (triggerAlert rendering cfg plugin calls now post commits summary call.roomId
      call.sender call.priority (alert i).today (alert i).shortId.text names db
      state.jira.map).posted ≠ none) :
    let after := run (step alert) state [.jira (.post i), .jira (.record i commits)]
    let triggered := triggerAlert rendering cfg plugin calls now post commits summary call.roomId
      call.sender call.priority (alert i).today (alert i).shortId.text names db state.jira.map
    after.jira.map = triggered.map ∧
      served alert after.jira i answers (.triggerAlert call) =
        triggered.returned.map fun returned => (returned.1, some returned.2) := by
  intro after triggered
  obtain ⟨room, sender⟩ := postedBy
  rw [← room] at isPosted
  obtain ⟨returned, stored⟩ :=
    triggerAlert_records (alert i) ofBot.symm sender.symm accepted isPosted
  have isPossible : possible alert state.board (.post i) = true := by
    rw [possible, waits, Option.any_some]
    exact decide_eq_true ⟨room, sender⟩
  have steps : after.jira = postAndRecord alert state.jira i commits := by
    simp only [after]
    rw [run_cons, run_cons, run_nil, step_possible isPossible, step_possible rfl]
    rfl
  obtain ⟨isMap, isReturned⟩ := postAndRecord_outcome commits fresh unreturned
  simp only [triggered]
  rw [steps, ← room, stored, returned, served]
  refine ⟨isMap, ?_⟩
  split
  · rename_i listed
    obtain ⟨map, recorded⟩ := Option.isSome_iff_exists.mp (isReturned.mp listed)
    rw [recorded]
    rfl
  · rename_i unlisted
    rw [Option.not_isSome_iff_eq_none.mp fun recorded => unlisted (isReturned.mpr recorded)]
    rfl

/-- Where the POST is not accepted `trigger_alert` raises and leaves the map as it is, which is a
turn of the handler without the other two steps. -/
theorem triggerAlert_refused {alert : TriggeredAlert} {sender : ThaumPerson}
    {priority : AlertPriority} {map : AlertMap} (refused : post.ok = false) :
    let triggered := triggerAlert rendering cfg plugin calls now post commits summary alert.roomId
      sender priority alert.today alert.shortId.text names db map
    triggered.returned = none ∧ triggered.map = map := by
  intro triggered
  simp only [triggered]
  rw [triggerAlert]
  split
  · exact ⟨rfl, rfl⟩
  · rw [refused]
    exact ⟨rfl, rfl⟩

end Trigger

/-- A handler has raised its alert, or waits for it. -/
def Raises (board : Board ι RoomCall RoomCall.Answer Unit) (i : ι) (call : TriggerCall) : Prop :=
  waiting? board i = some call ∨ ∃ answer, (i, ⟨.triggerAlert call, answer⟩) ∈ board.log

/-- The handlers agree with what happened at Jira: a handler waits while its alert is pending, a
posted alert was raised by its handler, and what a handler was answered is recorded. -/
structure Coupled (alert : ι → TriggeredAlert) (bot : RoomBot) (templates : Templates)
    (handled : ι → Bots.Handled) (state : Deployment ι) : Prop where
  logged : Logged (fun i => bot.handleEvent templates (handled i)) state.board
  waits : ∀ i ∈ state.jira.pending, (waiting? state.board i).isSome = true
  posted : ∀ i ∈ state.jira.posted, ∃ call, PostedBy (alert i) call ∧ Raises state.board i call
  returned : ∀ i ∈ state.jira.returned, i ∈ state.jira.posted
  answered : ∀ i call answer, (i, ⟨.triggerAlert call, some answer⟩) ∈ state.board.log →
    i ∈ state.jira.returned ∧ answer = ((alert i).shortId.text, some (alert i).alertAlias)
  heard : ∀ message ∈ state.jira.said, message.1 ∈ state.jira.posted

/-- At the start no handler has raised an alert, and nothing was posted. -/
theorem coupled_start : Coupled alert bot templates handled (start bot templates handled) where
  logged := logged_start _
  waits := by simp [start, RunState.initial]
  posted := by simp [start, RunState.initial]
  returned := by simp [start, RunState.initial]
  answered := by simp [start, Scripts.start]
  heard := by simp [start, RunState.initial]

/-- What a handler raised stays raised when the next call is made, by itself or by another
handler. -/
theorem Raises.step (raises : Raises board i call) (turn : Turn ι RoomCall RoomCall.Answer) :
    Raises (Scripts.step board turn) i call := by
  rcases raises with waits | ⟨answer, listed⟩
  · obtain ⟨next, isCall⟩ := waiting?_iff.mp waits
    by_cases same : turn.1 = i
    · subst same
      exact Or.inr ⟨_, mem_step_log.mpr (Or.inr ⟨_, next, isCall, rfl⟩)⟩
    · exact Or.inl (waiting?_iff.mpr ⟨next, (step_other same).trans isCall⟩)
  · exact Or.inr ⟨answer, mem_step_log.mpr (Or.inl listed)⟩

/-- A call of `trigger_alert` that is served returns the short id and the alias of its alert, which
was recorded. -/
theorem served_alert {jira : RunState ι} {answers : (c : RoomCall) → Option c.Answer}
    {answer : Text × Option Text}
    (isServed : served alert jira i answers (.triggerAlert call) = some answer) :
    i ∈ jira.returned ∧ answer = ((alert i).shortId.text, some (alert i).alertAlias) := by
  rw [served] at isServed
  split at isServed
  · rename_i returned
    exact ⟨returned, (Option.some.inj isServed).symm⟩
  · cases isServed

/-- A handler that is not waiting for a pending alert makes its call. If that is `trigger_alert` it
comes to what was recorded. -/
theorem Coupled.turn (coupled : Coupled alert bot templates handled state)
    (answers : (c : RoomCall) → Option c.Answer) (idle : i ∉ state.jira.pending) :
    Coupled alert bot templates handled
      { state with board := Scripts.step state.board (i, served alert state.jira i answers) } where
  logged := coupled.logged.step _
  waits j isPending := by
    have other : i ≠ j := by
      rintro rfl
      exact idle isPending
    obtain ⟨call, waits⟩ := Option.isSome_iff_exists.mp (coupled.waits j isPending)
    obtain ⟨next, isCall⟩ := waiting?_iff.mp waits
    exact Option.isSome_iff_exists.mpr
      ⟨call, waiting?_iff.mpr ⟨next, (step_other other).trans isCall⟩⟩
  posted j isPosted := by
    obtain ⟨call, postedBy, raises⟩ := coupled.posted j isPosted
    exact ⟨call, postedBy, raises.step _⟩
  returned := coupled.returned
  answered j call answer listed := by
    rcases mem_step_log.mp listed with before | ⟨made, next, isCall, same⟩
    · exact coupled.answered j call answer before
    · dsimp only at same
      generalize isServed : served alert state.jira i answers made = outcome at same
      cases same
      exact served_alert isServed
  heard := coupled.heard

/-- What happens at Jira keeps the handlers in step with it. A POST is possible only for a call that
is waited for, and it is pending then. -/
theorem Coupled.jira (coupled : Coupled alert bot templates handled state)
    (consistent : Consistent alert state.jira) {event : RunEvent alert}
    (isPossible : possible alert state.board event = true) :
    Coupled alert bot templates handled
      { state with jira := AlertRuns.step state.jira event } := by
  cases event with
  | post i =>
    obtain ⟨call, waits, postedBy⟩ := (Option.any_eq_true _ _).mp isPossible
    rw [AlertRuns.step, advance]
    split
    · exact { coupled with }
    · constructor
      · exact coupled.logged
      · intro j isPending
        rcases List.mem_cons.mp isPending with rfl | before
        · rw [waits]
          rfl
        · exact coupled.waits j before
      · intro j isPosted
        rcases List.mem_cons.mp isPosted with rfl | before
        · exact ⟨call, of_decide_eq_true postedBy, Or.inl waits⟩
        · exact coupled.posted j before
      · exact fun j returned => List.mem_cons_of_mem i (coupled.returned j returned)
      · exact coupled.answered
      · exact fun message said => List.mem_cons_of_mem i (coupled.heard message said)
  | record i commits =>
    rw [AlertRuns.step, advance]
    split
    · rename_i isPending
      have stillWaits : ∀ j ∈ state.jira.pending.erase i,
          (waiting? state.board j).isSome = true :=
        fun j listed => coupled.waits j (List.mem_of_mem_erase listed)
      dsimp only
      split
      · refine { coupled with waits := stillWaits, returned := ?_, answered := ?_ }
        · intro j returned
          rcases List.mem_cons.mp returned with rfl | before
          · exact consistent.pendingPosted j isPending
          · exact coupled.returned j before
        · intro j call answer listed
          obtain ⟨returned, same⟩ := coupled.answered j call answer listed
          exact ⟨List.mem_cons_of_mem i returned, same⟩
      · exact { coupled with waits := stillWaits }
    · exact { coupled with }
  | webhook i delivery lag =>
    rw [AlertRuns.step, advance]
    split
    · rename_i isPosted
      split
      · exact { coupled with }
      · refine { coupled with heard := ?_ }
        intro message said
        rcases List.mem_cons.mp said with rfl | before
        · exact isPosted
        · exact coupled.heard message before
      · exact { coupled with }
    · exact { coupled with }

/-- What a handler raises it has prepared, by the law about one handler. -/
theorem Coupled.prepared (coupled : Coupled alert bot templates handled state)
    (raises : Raises state.board i call) :
    ∃ events, Prepared bot templates (handled i) events call := by
  rcases raises with waits | ⟨answer, listed⟩
  · obtain ⟨next, isCall⟩ := waiting?_iff.mp waits
    have isRun := coupled.logged i
    rw [isCall] at isRun
    exact ⟨_, (handleEvent_alert isRun).1⟩
  · obtain ⟨before, after, parts⟩ := List.append_of_mem listed
    obtain ⟨next, raises, _⟩ := logged_at coupled.logged parts
    exact ⟨_, (handleEvent_alert raises).1⟩

/-- An alert that is in the log is the only one of its handler. -/
theorem Coupled.raised_unique (coupled : Coupled alert bot templates handled state)
    {answer : Option (Text × Option Text)} {other : TriggerCall}
    (listed : (i, ⟨.triggerAlert call, answer⟩) ∈ state.board.log)
    (raises : Raises state.board i other) : other = call := by
  have isRun := coupled.logged i
  rcases raises with waits | ⟨given, alsoListed⟩
  · obtain ⟨next, isCall⟩ := waiting?_iff.mp waits
    obtain ⟨before, after, parts⟩ := List.append_of_mem (mem_eventsOf.mpr listed)
    rw [parts] at isRun
    exact absurd isCall ((alert_once isRun).2 other next)
  · exact alert_unique isRun (mem_eventsOf.mpr listed) (mem_eventsOf.mpr alsoListed)

/-- What a handler was answered is about the alert that it raised. -/
theorem Coupled.answered_by (coupled : Coupled alert bot templates handled state)
    {answer : Text × Option Text}
    (listed : (i, ⟨.triggerAlert call, some answer⟩) ∈ state.board.log) :
    PostedBy (alert i) call := by
  obtain ⟨returned, _⟩ := coupled.answered i call answer listed
  obtain ⟨other, postedBy, raises⟩ := coupled.posted i (coupled.returned i returned)
  rwa [← coupled.raised_unique listed raises]

section Safety

variable {alert : ι → TriggeredAlert} {plugin : Bot} {jira : RunState ι}

/-- Where short ids are drawn once they stay settled, as every step is safe. -/
theorem Drawn.settled_step (drawn : Drawn alert plugin) (consistent : Consistent alert jira)
    (settled : Settled alert jira) (event : RunEvent alert) :
    Settled alert (AlertRuns.step jira event) := by
  have safe := drawn.safe consistent event
  cases event with
  | post i =>
    refine (settled.post_iff fun i j => ?_).mpr safe
    rw [drawn.ofBot i, drawn.ofBot j]
  | record i commits => exact (settled.record_iff commits).mpr safe
  | webhook i delivery lag =>
    exact (consistent.webhook_iff drawn.idsApart settled delivery lag).mpr safe

/-- What every state of a run has in common. -/
structure Sound (alert : ι → TriggeredAlert) (bot : RoomBot) (templates : Templates)
    (handled : ι → Bots.Handled) (state : Deployment ι) : Prop where
  coupled : Coupled alert bot templates handled state
  routed : WellRouted alert state.jira
  settled : Settled alert state.jira

/-- The start is sound. -/
theorem sound_start : Sound alert bot templates handled (start bot templates handled) where
  coupled := coupled_start
  routed := ⟨consistent_initial, by simp [start, RunState.initial]⟩
  settled := fun i latest => by simp [start, latestReturned, RunState.initial] at latest

/-- Whatever happens keeps a state sound. What is not possible leaves it as it is. -/
theorem Sound.step (sound : Sound alert bot templates handled state) (drawn : Drawn alert plugin)
    (happening : Happening alert) :
    Sound alert bot templates handled (RoomAlerts.step alert state happening) := by
  cases happening with
  | turn turn =>
    obtain ⟨i, answers⟩ := turn
    rw [RoomAlerts.step]
    split
    · exact sound
    · rename_i idle
      exact ⟨sound.coupled.turn answers idle, sound.routed, sound.settled⟩
  | jira event =>
    rw [RoomAlerts.step]
    split
    · rename_i isPossible
      have consistent := sound.routed.consistent
      constructor
      · exact sound.coupled.jira consistent isPossible
      · exact sound.routed.step drawn.separate event
      · exact drawn.settled_step consistent sound.settled event
    · exact sound

/-- The handler's words after its alert are in the room of the alert and tell its short id. -/
def SaidAfter (state : Deployment ι) (i : ι) (call : TriggerCall) (roomId text : Text) : Prop :=
  ∃ answer outcome before after,
    state.board.log = before ++ (i, ⟨.triggerAlert call, answer⟩) :: after ∧
      ⟨.say roomId text, outcome⟩ ∈ eventsOf i after

/-- The short id of an alert acknowledges it, and its webhooks are heard in a room. -/
structure Answers (alert : ι → TriggeredAlert) (bot : RoomBot) (plugin : Bot) (jira : RunState ι)
    (i : ι) (roomId : Text) : Prop where
  acknowledged : ∀ text typed rendering scan (calls : AckCalls) now person db,
    AckText (alert i).shortId.text typed text → AliasesAnswered alert jira calls.lookup →
      hear bot.config text = some (.acknowledge typed) ∧
        ActsOn (acknowledgeAlert rendering scan plugin calls now typed person jira.map db).1
          (alert i).jiraId.text
  notDropped : ∀ delivery : Delivery (alert i), delivery.handled jira.map jira.map ≠ .dropped
  statuses : ∀ (delivery : Delivery (alert i)) said context,
    delivery.handled jira.map jira.map = .said said context → said.roomId = strip roomId

/-- What a handler says after its alert is the short id of that alert, in its room, and the id
answers there; a status message goes to a room that a handler prepared its alert in, under the
name of who asked for it. -/
structure LeadsBack (alert : ι → TriggeredAlert) (bot : RoomBot) (plugin : Bot)
    (templates : Templates) (handled : ι → Bots.Handled) (state : Deployment ι) : Prop where
  told : ∀ i call roomId text, SaidAfter state i call roomId text →
    roomId = call.roomId ∧
      (handled i).announcement bot.config (alert i).shortId.text = some text ∧
      Answers alert bot plugin state.jira i roomId
  said : ∀ message ∈ state.jira.said, ∃ events call,
    Prepared bot templates (handled message.1) events call ∧
      message.2.1.roomId = strip call.roomId ∧
      message.2.2.senderName = senderNameOrDefault call.sender.forDisplay

/-- An alert that returned answers in its room: its short id is settled, its row is stored, and the
row names the room. -/
theorem Sound.answers (sound : Sound alert bot templates handled state)
    (drawn : Drawn alert plugin) (alerts : bot.config.sendAlerts = true)
    (acknowledges : bot.config.supportsAcknowledge = true) (returned : i ∈ state.jira.returned)
    (postedBy : PostedBy (alert i) call) :
    Answers alert bot plugin state.jira i call.roomId := by
  have consistent := sound.routed.consistent
  have latest := drawn.latest_of_returned returned
  constructor
  · intro text typed rendering scan calls now person db
    exact (consistent.acksLatest_iff drawn.idsApart drawn.ofBot alerts acknowledges).mpr
      sound.settled i text typed rendering scan calls now person db latest
  · intro delivery
    exact consistent.not_dropped drawn.separate delivery 0 (sound.settled i latest).stored
  · intro delivery said context speaks
    have speaksNow : delivery.handled (state.jira.mapAt 0) state.jira.map = .said said context :=
      speaks
    rw [← postedBy.1]
    exact (consistent.says_routed drawn.separate speaksNow).1

/-- In a sound state the short ids that the rooms were told lead back. What a handler said after its
alert is the announcement of an alert that returned. -/
theorem Sound.leadsBack (sound : Sound alert bot templates handled state)
    (drawn : Drawn alert plugin) (alerts : bot.config.sendAlerts = true)
    (acknowledges : bot.config.supportsAcknowledge = true) :
    LeadsBack alert bot plugin templates handled state where
  told i call roomId text said := by
    obtain ⟨answer, outcome, before, after, parts, listed⟩ := said
    obtain ⟨next, raises, goesOn⟩ := logged_at sound.coupled.logged parts
    obtain ⟨told, beyond, isAfter, announced, deletions⟩ :=
      (handleEvent_alert raises).2 answer _ _ goesOn
    rw [isAfter] at listed
    rcases List.mem_append.mp listed with isTold | isBeyond
    · rcases announced with rfl | ⟨shortId, alertId, announcement, given, rfl, isText, rfl⟩
      · cases isTold
      · cases List.mem_singleton.mp isTold
        have inLog : (i, ⟨.triggerAlert call, some (shortId, alertId)⟩) ∈ state.board.log := by
          rw [parts]
          exact List.mem_append_right _ List.mem_cons_self
        obtain ⟨returned, same⟩ := sound.coupled.answered i call _ inLog
        obtain ⟨rfl, rfl⟩ := Prod.mk.inj same
        exact ⟨rfl, isText, sound.answers drawn alerts acknowledges returned
          (sound.coupled.answered_by inLog)⟩
    · obtain ⟨messageId, impossible⟩ := deletions _ isBeyond
      cases impossible
  said message listed := by
    obtain ⟨isRoom, isSender, _⟩ := sound.routed.routed message listed
    obtain ⟨call, ⟨sameRoom, sameSender⟩, raises⟩ :=
      sound.coupled.posted _ (sound.coupled.heard message listed)
    obtain ⟨events, prepared⟩ := sound.coupled.prepared raises
    refine ⟨events, call, prepared, isRoom.trans ?_, isSender.trans ?_⟩
    · rw [destination, sameRoom]
    · rw [destination, sameSender]

/-- However the handlers, the POSTs, the rows and the webhooks interleave, the short ids that the
rooms are told lead back to their alerts.

Proof: every state of the run is sound. The handlers are in step with what happened at Jira, every
row and message belongs to its alert, and each short id is settled; from that the answers are read
off. -/
theorem told_ids_lead_back (alert : ι → TriggeredAlert) (bot : RoomBot) (plugin : Bot)
    (templates : Templates) (handled : ι → Bots.Handled) (drawn : Drawn alert plugin)
    (alerts : bot.config.sendAlerts = true)
    (acknowledges : bot.config.supportsAcknowledge = true)
    (happenings : List (Happening alert)) :
    LeadsBack alert bot plugin templates handled
      (run (step alert) (start bot templates handled) happenings) := by
  have kept (state : Deployment ι) (happening : Happening alert)
      (sound : Sound alert bot templates handled state) (_ : True) :
      Sound alert bot templates handled (step alert state happening) :=
    sound.step drawn happening
  have sound := invariant_run kept _ happenings sound_start
    (guarded_of_forall (fun _ _ => trivial) _ _)
  exact sound.leadsBack drawn alerts acknowledges

end Safety

section Example

/-- The alerts of two requests for help. -/
def helpAlerts (i : Bool) : TriggeredAlert :=
  { twoAlerts i with senderName := requester.forDisplay }

/-- The two alerts have short ids, aliases and Jira ids of their own. -/
theorem helpAlerts_drawn : Drawn helpAlerts sreBot where
  separate :=
    { botKeys := by decide
      rooms := by decide
      aliases := by decide
      ids := by decide }
  shortIds := by decide
  ofBot := by decide

/-- The platform makes the room of the alert. -/
def roomMade (i : Bool) : Turn Bool RoomCall RoomCall.Answer :=
  (i, fun
    | .createRoom _ => some (helpAlerts i).roomId
    | call => refusing call)

/-- Both rooms are made, and the rows of their alerts are recorded in the other order. -/
def crossedRun : List (Happening helpAlerts) :=
  (List.replicate 6 [Happening.turn (roomMade true), .turn (roomMade false)]).flatten ++
    [.jira (.post true), .turn (roomMade true), .jira (.post false), .jira (.record false true),
      .turn (roomMade false), .jira (.record true true), .turn (roomMade true),
      .turn (roomMade false), .turn (roomMade true)]

/-- The state at the end of that run. -/
def crossed : Deployment Bool :=
  run (step helpAlerts) (start opsBot plainTemplates bothAsk) crossedRun

/-- Each room is told the id of its own alert, and the ids lead back. -/
theorem crossed_ids_lead_back :
    LeadsBack helpAlerts opsBot sreBot plainTemplates bothAsk crossed ∧
      (eventsOf true crossed.board.log).getLast? =
        some ⟨.say "room-2".toList "Alert sent: WXYZ".toList, some ()⟩ ∧
      (eventsOf false crossed.board.log).getLast? =
        some ⟨.say "room-1".toList "Alert sent: ABCD".toList, some ()⟩ := by
  refine ⟨?_, by rfl, by rfl⟩
  exact told_ids_lead_back helpAlerts opsBot sreBot plainTemplates bothAsk helpAlerts_drawn rfl
    rfl crossedRun

end Example

end Thaum.Jira.RoomAlerts
