import Thaum.Library.GuardedRuns
import Thaum.Jira.StatusWebhook

/-!
# Runs of triggers and webhooks over the alert map

A family of alerts is given, one for each call of `trigger_alert` whose POST Jira
accepts. A run is a list of steps in any order: the POST of an alert, the transaction
that records its pending row, and deliveries of its webhooks. A delivery makes its
first read some steps before its last transaction, and any transaction may fail.

Jira delivers webhooks only of alerts that were posted, and each call records its
pending row at most once.
-/

namespace Thaum.Jira

open PyText PyJson KeyedRows GuardedRuns

/-- `_ALPHABET`. -/
def shortIdAlphabet : Text := "ABCDEFGHJKLMNPQRSTUVWXYZ23456789".toList

/-- What `_generate_short_id(4)` draws. -/
structure ShortId where
  text : Text
  four : text.length = 4
  drawn : ∀ c ∈ text, c ∈ shortIdAlphabet
deriving DecidableEq

/-- The id of an alert at Jira. -/
structure JiraId where
  text : Text
  trimmed : Trimmed text
  nonblank : text ≠ []
deriving DecidableEq

/-- A call of `trigger_alert` whose POST is accepted, and the id of its alert at Jira. -/
structure TriggeredAlert where
  botKey : Text
  today : Text
  shortId : ShortId
  roomId : Text
  /-- `sender.for_display`. -/
  senderName : Text
  jiraId : JiraId

namespace TriggeredAlert

variable (alert : TriggeredAlert)

/-- The alias under which the alert is posted. -/
def alertAlias : Text := datedAlias alert.today alert.shortId.text

/-- The key of the row of the alert. -/
def key : Text × Text := (strip alert.botKey, alert.alertAlias)

end TriggeredAlert

/-- No letter of the short ids is blank. -/
theorem alphabet_solid : ∀ c ∈ shortIdAlphabet, isSpace c = false := by decide

@[simp] theorem ShortId.trimmed (shortId : ShortId) : strip shortId.text = shortId.text := by
  refine trimmed_of_ends _ ?_ ?_
  · exact fun c first => alphabet_solid c (shortId.drawn c (List.mem_of_mem_head? first))
  · exact fun c last => alphabet_solid c (shortId.drawn c (List.mem_of_mem_getLast? last))

/-- A short id has four letters, so it is not empty. -/
theorem ShortId.nonblank (shortId : ShortId) : shortId.text ≠ [] := by
  intro blank
  have four := shortId.four
  rw [blank] at four
  exact absurd four (by decide)

/-- An alias starts with the first letter of `THAUM`. -/
theorem datedAlias_cons (today shortId : Text) :
    ∃ rest, datedAlias today shortId = 'T' :: rest := ⟨_, rfl⟩

/-- An alias ends with its short id. -/
theorem datedAlias_suffix (today shortId : Text) : shortId <:+ datedAlias today shortId := by
  have afterDash (front : Text) : shortId <:+ front ++ '-' :: shortId :=
    ⟨front ++ ['-'], by simp⟩
  exact afterDash _

/-- An alias is trimmed: it starts with a letter and ends with its short id. -/
theorem datedAlias_trimmed (today : Text) (shortId : ShortId) :
    strip (datedAlias today shortId.text) = datedAlias today shortId.text := by
  refine trimmed_of_ends _ ?_ ?_
  · intro c first
    obtain ⟨rest, parts⟩ := datedAlias_cons today shortId.text
    rw [parts, List.head?_cons, Option.mem_some_iff] at first
    rw [← first]
    decide
  · intro c last
    have inId : c ∈ shortId.text.getLast? := by
      obtain ⟨front, parts⟩ := datedAlias_suffix today shortId.text
      rwa [← parts, List.getLast?_append_of_ne_nil _ shortId.nonblank] at last
    exact alphabet_solid c (shortId.drawn c (List.mem_of_mem_getLast? inId))

/-- An alias is not empty. -/
theorem datedAlias_nonblank (today : Text) (shortId : ShortId) :
    datedAlias today shortId.text ≠ [] := by
  obtain ⟨rest, parts⟩ := datedAlias_cons today shortId.text
  rw [parts]
  exact List.cons_ne_nil _ _

/-- The short id can be read off an alias: it is what the last four characters are. -/
theorem datedAlias_shortId {today other : Text} {first second : ShortId}
    (same : datedAlias today first.text = datedAlias other second.text) :
    first.text = second.text := by
  have left := datedAlias_suffix today first.text
  have right := same ▸ datedAlias_suffix other second.text
  have equal : first.text.length = second.text.length := by rw [first.four, second.four]
  exact (List.suffix_of_suffix_length_le left right equal.le).eq_of_length equal

@[simp] theorem TriggeredAlert.alias_trimmed (alert : TriggeredAlert) :
    strip alert.alertAlias = alert.alertAlias :=
  datedAlias_trimmed _ _

/-- The alias of an alert is not empty. -/
theorem TriggeredAlert.alias_nonblank (alert : TriggeredAlert) : alert.alertAlias ≠ [] :=
  datedAlias_nonblank _ _

@[simp] theorem JiraId.strip_text (id : JiraId) : strip id.text = id.text := id.trimmed

/-- The row of an alert with the Jira id stored with it. -/
def TriggeredAlert.row (alert : TriggeredAlert) (jiraAlertId : Option Text) : JiraAlertMap where
  botKey := strip alert.botKey
  alertAlias := alert.alertAlias
  shortId := alert.shortId.text
  roomId := strip alert.roomId
  jiraAlertId
  senderName := senderNameOrDefault alert.senderName

/-- The row stored under the key of an alert. -/
def rowOf (alert : TriggeredAlert) (map : AlertMap) : Option JiraAlertMap :=
  map.row? alert.key.1 alert.key.2

/-- The Jira id stored under the key of an alert. -/
def linkOf (alert : TriggeredAlert) (map : AlertMap) : Option Text :=
  (rowOf alert map).bind JiraAlertMap.jiraAlertId

/-- The pending row of an alert is its row, with the Jira id that is stored under its key, if one
is. -/
theorem pendingRow_alert (alert : TriggeredAlert) (map : AlertMap) :
    pendingRow map (strip alert.botKey) alert.alertAlias alert.shortId.text (strip alert.roomId)
      (senderNameOrDefault alert.senderName) = alert.row (linkOf alert map) := by
  unfold pendingRow linkOf rowOf TriggeredAlert.key
  cases found : map.row? (strip alert.botKey) alert.alertAlias with
  | none => rfl
  | some row =>
    obtain ⟨_, sameBot, sameAlias⟩ := AlertMap.row?_some found
    rw [TriggeredAlert.row, ← sameBot, ← sameAlias]
    rfl

/-- That row can always be written: its Jira id is the one that is stored under its key, so the
index has it for no other row. -/
theorem row_free (alert : TriggeredAlert) (map : AlertMap) :
    Free JiraAlertMap.key JiraAlertMap.jiraAlertId (alert.row (linkOf alert map)) map.rows := by
  rw [← pendingRow_alert]
  exact pendingRow_free _ _ _ _ _ _

/-- Recording an alert writes its row if the bot and the room have ids. A commit that fails raises,
and leaves the table as it was. -/
theorem upsertPendingRow_alert (commits : Bool) (alert : TriggeredAlert) (map : AlertMap) :
    upsertPendingRow commits alert.botKey alert.alertAlias alert.shortId.text alert.roomId
        alert.senderName map =
      if NonBlank alert.botKey ∧ NonBlank alert.roomId then
        if commits then some (map.write (alert.row (linkOf alert map)) (row_free alert map))
        else none
      else some map := by
  simp only [upsertPendingRow, TriggeredAlert.alias_trimmed, ShortId.trimmed, pendingRow_alert,
    alert.shortId.nonblank, alert.alias_nonblank, false_or, NonBlank]
  by_cases keyed : strip alert.botKey = []
  · simp [keyed]
  · by_cases roomed : strip alert.roomId = []
    · simp [roomed]
    · simp [keyed, roomed]

section Trigger

variable {rendering : Rendering} {cfg : JiraConfig} {bot : Bot} {calls : AuxiliaryCalls}
  {now : Nat} {post : PyRequests.Response} {commits : Bool} {summary : Text}
  {sender : ThaumPerson} {priority : AlertPriority} {names : TeamNames}
  {db : Lookup.IdentityDb} {map : AlertMap}

/-- A call of `trigger_alert` whose POST is accepted records the row of its alert, and returns the
short id and the alias if that goes through. The runs below take the recording as a step of its
own. -/
theorem triggerAlert_records (alert : TriggeredAlert) (toBot : bot.botKey = alert.botKey)
    (display : sender.forDisplay = alert.senderName) (accepted : post.ok = true)
    (isPosted : (triggerAlert rendering cfg bot calls now post commits summary alert.roomId
      sender priority alert.today alert.shortId.text names db map).posted ≠ none) :
    (triggerAlert rendering cfg bot calls now post commits summary alert.roomId sender priority
        alert.today alert.shortId.text names db map).returned =
      (upsertPendingRow commits alert.botKey alert.alertAlias alert.shortId.text alert.roomId
        alert.senderName map).map (fun _ => (alert.shortId.text, alert.alertAlias)) ∧
    (triggerAlert rendering cfg bot calls now post commits summary alert.roomId sender priority
        alert.today alert.shortId.text names db map).map =
      (upsertPendingRow commits alert.botKey alert.alertAlias alert.shortId.text alert.roomId
        alert.senderName map).getD map := by
  unfold triggerAlert at isPosted ⊢
  cases prepared : prepareAlert rendering cfg bot calls now summary sender priority alert.today
      alert.shortId.text names db with
  | none => simp [prepared] at isPosted
  | some found =>
    obtain ⟨body, listed, cache⟩ := found
    have aliased : body.alertAlias = alert.alertAlias := by
      unfold prepareAlert at prepared
      split at prepared
      · simp at prepared
      · split at prepared
        · simp at prepared
        · obtain ⟨rfl, -⟩ := Prod.mk.inj (Option.some.inj prepared)
          rfl
    dsimp only
    rw [if_pos accepted, recordAlert, aliased, toBot, display]
    exact ⟨rfl, rfl⟩

end Trigger

namespace AlertRuns

/-- The fields of `payload["alert"]`. -/
def alertFields (payload : List (Text × Json)) : List (Text × Json) :=
  (get "alert".toList payload).fields?.getD []

/-- A webhook of an alert, delivered to the bot that triggered it with the id and alias
of the alert. -/
structure Delivery (alert : TriggeredAlert) where
  bot : Bot
  cfg : StatusConfig
  outside : Surroundings
  payload : List (Text × Json)
  commits : Bool
  toBot : bot.botKey = alert.botKey
  carriesId : get "alertId".toList (alertFields payload) = .str alert.jiraId.text
  carriesAlias : get "alias".toList (alertFields payload) = .str alert.alertAlias

namespace Delivery

variable {alert : TriggeredAlert} (delivery : Delivery alert)

/-- The action of the webhook. -/
def action : Text := strOrBlank delivery.outside.rendering (get "action".toList delivery.payload)

/-- How the bot handles the webhook, given the tables its two reads see. -/
def handled (first second : AlertMap) : Handled :=
  handleJiraStatusWebhook delivery.bot delivery.cfg delivery.outside delivery.commits
    delivery.payload first second

variable {delivery}

/-- A webhook is handled as a Create, or as a status of its alert. -/
theorem handled_branches (first second : AlertMap) : delivery.handled first second =
    if delivery.action = "Create".toList then
      handleCreate delivery.bot delivery.commits alert.jiraId.text alert.alertAlias first second
    else handleStatus delivery.bot delivery.cfg delivery.outside delivery.action alert.jiraId.text
      alert.alertAlias (alertFields delivery.payload) first second := by
  simp only [handled, handleJiraStatusWebhook]
  rw [← alertFields, delivery.carriesId, delivery.carriesAlias, strOrBlank_str, strOrBlank_str,
    alert.jiraId.strip_text, alert.alias_trimmed]
  rfl

/-- A Create goes to its own handler. -/
theorem handled_create (isCreate : delivery.action = "Create".toList) (first second : AlertMap) :
    delivery.handled first second =
      handleCreate delivery.bot delivery.commits alert.jiraId.text alert.alertAlias first
        second := by
  rw [handled_branches, if_pos isCreate]

/-- Every other action goes to the handler of statuses. -/
theorem handled_status (notCreate : delivery.action ≠ "Create".toList)
    (first second : AlertMap) : delivery.handled first second =
      handleStatus delivery.bot delivery.cfg delivery.outside delivery.action alert.jiraId.text
        alert.alertAlias (alertFields delivery.payload) first second := by
  rw [handled_branches, if_neg notCreate]

/-- A webhook looks its row up under the key of its alert, as the bot and the alias that it comes
with are those the alert was triggered with. -/
theorem row?_here (map : AlertMap) :
    map.row? (strip delivery.bot.botKey) (strip alert.alertAlias) = rowOf alert map := by
  rw [delivery.toBot, alert.alias_trimmed]
  rfl

end Delivery

variable {ι : Type} (alert : ι → TriggeredAlert)

/-- The steps of a run. -/
inductive RunEvent where
  /-- Jira accepts the POST of an alert. -/
  | post : (i : ι) → RunEvent
  /-- The pending row of an alert is recorded, and its call returns if that commits. -/
  | record : (i : ι) → (commits : Bool) → RunEvent
  /-- A webhook whose first read is a number of steps old. -/
  | webhook : (i : ι) → (delivery : Delivery (alert i)) → (lag : Nat) → RunEvent

/-- The table with those before it, the latest first, and what has happened, the latest
first. -/
structure RunState (ι : Type) where
  map : AlertMap
  past : List AlertMap
  posted : List ι
  pending : List ι
  returned : List ι
  said : List (ι × Said × StatusContext)

namespace RunState

/-- A run starts with a table and nothing posted. -/
def initial (map : AlertMap) : RunState ι :=
  { map, past := [], posted := [], pending := [], returned := [], said := [] }

/-- The table some steps ago. -/
def mapAt (state : RunState ι) (lag : Nat) : AlertMap :=
  (state.map :: state.past).getD lag state.map

end RunState

variable {alert}

section Steps

variable [DecidableEq ι]

/-- What a step changes apart from remembering the table before it. -/
def advance (state : RunState ι) : RunEvent alert → RunState ι
  | .post i =>
    if i ∈ state.posted then state
    else { state with posted := i :: state.posted, pending := i :: state.pending }
  | .record i commits =>
    if i ∈ state.pending then
      let pending := state.pending.erase i
      match upsertPendingRow commits (alert i).botKey (alert i).alertAlias (alert i).shortId.text
          (alert i).roomId (alert i).senderName state.map with
      | some map => { state with map, pending, returned := i :: state.returned }
      | none => { state with pending }
    else state
  | .webhook i delivery lag =>
    if i ∈ state.posted then
      match delivery.handled (state.mapAt lag) state.map with
      | .stored map => { state with map }
      | .said said context => { state with said := (i, said, context) :: state.said }
      | _ => state
    else state

/-- A step, and the table before it is remembered. -/
def step (state : RunState ι) (event : RunEvent alert) : RunState ι :=
  { advance state event with past := state.map :: state.past }

end Steps

/-- What a row says comes from posted alerts of its key, and names a bot and a room. -/
structure RowOf (alert : ι → TriggeredAlert) (posted : List ι) (row : JiraAlertMap) : Prop where
  keyed : row.botKey ≠ []
  roomed : row.roomId ≠ []
  recorded : ∃ i ∈ posted, row.key = (alert i).key ∧ row.shortId = (alert i).shortId.text ∧
    row.roomId = strip (alert i).roomId ∧
    row.senderName = senderNameOrDefault (alert i).senderName
  linked : ∀ id, row.jiraAlertId = some id →
    ∃ i ∈ posted, row.key = (alert i).key ∧ id = (alert i).jiraId.text

/-- What every state of a run from an empty table has in common. -/
structure Consistent (alert : ι → TriggeredAlert) (state : RunState ι) : Prop where
  pendingPosted : ∀ i ∈ state.pending, i ∈ state.posted
  rows : ∀ map ∈ state.map :: state.past, ∀ row ∈ map.rows, RowOf alert state.posted row
  kept : ∀ map ∈ state.past, ∀ row ∈ map.rows,
    (state.map.row? row.botKey row.alertAlias).isSome = true

variable {state : RunState ι} {i : ι} {row : JiraAlertMap} {map : AlertMap}

/-- A table of some steps ago is the present one or one of those before it. -/
theorem mapAt_mem (state : RunState ι) (lag : Nat) :
    state.mapAt lag ∈ state.map :: state.past := by
  rw [RunState.mapAt, List.getD_eq_getElem?_getD]
  cases found : (state.map :: state.past)[lag]? with
  | none => exact List.mem_cons_self
  | some map => exact List.mem_of_getElem? found

/-- Rows are never deleted, so a row seen by an older read is still there. A row that is missing now
was missing then. -/
theorem Consistent.row_stays (consistent : Consistent alert state) {lag : Nat}
    {botKey alertAlias : Text} (absent : state.map.row? botKey alertAlias = none) :
    (state.mapAt lag).row? botKey alertAlias = none := by
  rcases List.mem_cons.mp (mapAt_mem state lag) with now | before
  · rw [now, absent]
  · cases found : (state.mapAt lag).row? botKey alertAlias with
    | none => rfl
    | some row =>
      obtain ⟨stored, rfl, rfl⟩ := AlertMap.row?_some found
      have stays := consistent.kept _ before row stored
      rw [absent] at stays
      exact absurd stays (by decide)

/-- The bot of an alert with a row has a key. -/
theorem Consistent.bot_keyed (consistent : Consistent alert state)
    (found : rowOf (alert i) state.map = some row) : strip (alert i).botKey ≠ [] := by
  obtain ⟨member, isKey, _⟩ := AlertMap.row?_some found
  exact isKey.symm.trans_ne (consistent.rows _ List.mem_cons_self row member).keyed

/-- A Create for an alert with a row writes the row with the Jira id, if it commits. Where the index
refuses the id, the write raises. -/
theorem Consistent.create_linked (consistent : Consistent alert state)
    {delivery : Delivery (alert i)} {lag : Nat} (isCreate : delivery.action = "Create".toList)
    (found : rowOf (alert i) state.map = some row) :
    delivery.handled (state.mapAt lag) state.map =
      ((if delivery.commits then
          state.map.write? { row with jiraAlertId := some (alert i).jiraId.text }
        else none).elim .refused .stored) := by
  have named : strip (alert i).jiraId.text ≠ [] :=
    (alert i).jiraId.strip_text.trans_ne (alert i).jiraId.nonblank
  have keyed : strip delivery.bot.botKey ≠ [] := by
    rw [delivery.toBot]
    exact consistent.bot_keyed found
  have aliased : strip (alert i).alertAlias ≠ [] :=
    (alert i).alias_trimmed.trans_ne (alert i).alias_nonblank
  rw [Delivery.handled_create isCreate,
    handleCreate_linked named keyed aliased ((delivery.row?_here _).trans found),
    (alert i).jiraId.strip_text]
  split <;> rename_i written <;> rw [written] <;> rfl

/-- A webhook that changes the table is a Create, and links the row of its alert. It makes no new
row: it has neither a short id nor a room to make one of. -/
theorem Consistent.stored_links (consistent : Consistent alert state)
    {delivery : Delivery (alert i)} {lag : Nat}
    (stored : delivery.handled (state.mapAt lag) state.map = .stored map) :
    map = state.map ∨ (delivery.action = "Create".toList ∧ delivery.commits = true) ∧
      ∃ row free, state.map.row? (alert i).key.1 (alert i).key.2 = some row ∧
        map = state.map.write { row with jiraAlertId := some (alert i).jiraId.text } free := by
  by_cases isCreate : delivery.action = "Create".toList
  · cases found : rowOf (alert i) state.map with
    | none =>
      have absent := (delivery.row?_here state.map).trans found
      rw [Delivery.handled_create isCreate] at stored
      exact Or.inl (handleCreate_absent (consistent.row_stays absent) absent stored)
    | some row =>
      rw [consistent.create_linked isCreate found] at stored
      cases committed : delivery.commits with
      | false => simp [committed] at stored
      | true =>
        rw [committed, if_pos rfl] at stored
        cases written : state.map.write? { row with jiraAlertId := some (alert i).jiraId.text } with
        | none => simp [written] at stored
        | some linked =>
          obtain ⟨free, rfl⟩ := AlertMap.write?_some written
          rw [written] at stored
          exact Or.inr ⟨⟨isCreate, rfl⟩, row, free, found, (Handled.stored.inj stored).symm⟩
  · rw [Delivery.handled_status isCreate] at stored
    exact absurd stored (handleStatus_not_stored _)

/-- What a row says goes on coming from posted alerts when more are posted. -/
theorem RowOf.mono {posted more : List ι} (of : RowOf alert posted row)
    (subset : ∀ i ∈ posted, i ∈ more) : RowOf alert more row where
  keyed := of.keyed
  roomed := of.roomed
  recorded := by
    obtain ⟨i, isPosted, facts⟩ := of.recorded
    exact ⟨i, subset i isPosted, facts⟩
  linked id isLinked := by
    obtain ⟨i, isPosted, facts⟩ := of.linked id isLinked
    exact ⟨i, subset i isPosted, facts⟩

/-- Recording an alert skips it, or writes its row, which says what the alert says. -/
theorem Consistent.recorded_row (consistent : Consistent alert state) (isPosted : i ∈ state.posted)
    {commits : Bool}
    (recorded : upsertPendingRow commits (alert i).botKey (alert i).alertAlias
      (alert i).shortId.text (alert i).roomId (alert i).senderName state.map = some map) :
    map = state.map ∨
      map = state.map.write ((alert i).row (linkOf (alert i) state.map)) (row_free _ _) ∧
        RowOf alert state.posted ((alert i).row (linkOf (alert i) state.map)) := by
  rw [upsertPendingRow_alert] at recorded
  split at recorded
  · rename_i named
    split at recorded
    · refine Or.inr ⟨(Option.some.inj recorded).symm, ?_⟩
      constructor
      · exact named.1
      · exact named.2
      · exact ⟨i, isPosted, rfl, rfl, rfl, rfl⟩
      · intro id isLinked
        obtain ⟨row, found, isId⟩ := Option.bind_eq_some_iff.mp isLinked
        obtain ⟨stored, sameBot, sameAlias⟩ := AlertMap.row?_some found
        obtain ⟨j, posted, sameKey, isJira⟩ :=
          (consistent.rows _ List.mem_cons_self row stored).linked id isId
        exact ⟨j, posted, (Prod.ext sameBot sameAlias : row.key = _).symm.trans sameKey, isJira⟩
    · simp at recorded
  · exact Or.inl (Option.some.inj recorded).symm

/-- What is asked of a step to keep a state consistent: it forgets no posted alert, its rows say
what posted alerts say, and no row goes. -/
theorem Consistent.next (consistent : Consistent alert state) {after : RunState ι}
    (pending : ∀ i ∈ after.pending, i ∈ after.posted)
    (posted : ∀ i ∈ state.posted, i ∈ after.posted)
    (rows : ∀ row ∈ after.map.rows, RowOf alert after.posted row)
    (grows : ∀ botKey alertAlias, (state.map.row? botKey alertAlias).isSome = true →
      (after.map.row? botKey alertAlias).isSome = true) :
    Consistent alert { after with past := state.map :: state.past } where
  pendingPosted := pending
  rows map listed row stored := by
    rcases List.mem_cons.mp listed with rfl | before
    · exact rows row stored
    · exact (consistent.rows map before row stored).mono posted
  kept map listed row stored := by
    rcases List.mem_cons.mp listed with rfl | before
    · exact grows _ _ (AlertMap.row?_isSome.mpr ⟨row, stored, rfl⟩)
    · exact grows _ _ (consistent.kept map before row stored)

/-- Linking a row to the alert of its key keeps what it says. -/
theorem RowOf.link {posted : List ι} (of : RowOf alert posted row) (isPosted : i ∈ posted)
    (keyed : row.key = (alert i).key) :
    RowOf alert posted { row with jiraAlertId := some (alert i).jiraId.text } where
  keyed := of.keyed
  roomed := of.roomed
  recorded := of.recorded
  linked _ isLinked := ⟨i, isPosted, keyed, (Option.some.inj isLinked).symm⟩

/-- An empty table with nothing posted is consistent. -/
theorem consistent_initial : Consistent alert (.initial .empty : RunState ι) where
  pendingPosted := by simp [RunState.initial]
  rows := by simp [RunState.initial, AlertMap.empty]
  kept := by simp [RunState.initial]

section Steps

variable [DecidableEq ι]

/-- Every step keeps a state consistent. The cases are the steps; a transaction that fails changes
nothing but what is remembered. -/
theorem Consistent.step (consistent : Consistent alert state) (event : RunEvent alert) :
    Consistent alert (step state event) := by
  have rowsNow : ∀ row ∈ state.map.rows, RowOf alert state.posted row :=
    consistent.rows _ List.mem_cons_self
  have unchanged : Consistent alert { state with past := state.map :: state.past } :=
    consistent.next consistent.pendingPosted (fun _ listed => listed) rowsNow
      (fun _ _ stored => stored)
  cases event with
  | post i =>
    rw [AlertRuns.step, advance]
    split
    · exact unchanged
    · refine consistent.next ?_ (fun j => List.mem_cons_of_mem i) ?_ (fun _ _ stored => stored)
      · intro j isPending
        rcases List.mem_cons.mp isPending with rfl | before
        · exact List.mem_cons_self
        · exact List.mem_cons_of_mem i (consistent.pendingPosted j before)
      · exact fun row stored => (rowsNow row stored).mono fun j => List.mem_cons_of_mem i
  | record i commits =>
    rw [AlertRuns.step, advance]
    split
    · rename_i isPending
      have stillPosted : ∀ j ∈ state.pending.erase i, j ∈ state.posted :=
        fun j listed => consistent.pendingPosted j (List.mem_of_mem_erase listed)
      dsimp only
      split
      · rename_i map recorded
        rcases consistent.recorded_row (consistent.pendingPosted i isPending) recorded with
          rfl | ⟨rfl, of⟩
        · exact consistent.next stillPosted (fun _ listed => listed) rowsNow
            (fun _ _ stored => stored)
        · refine consistent.next stillPosted (fun _ listed => listed) ?_ ?_
          · intro second stored
            rcases (AlertMap.mem_write (row_free _ _)).mp stored with rfl | ⟨before, _⟩
            · exact of
            · exact rowsNow second before
          · exact fun _ _ => AlertMap.row?_write_isSome (row_free _ _)
      · exact consistent.next stillPosted (fun _ listed => listed) rowsNow
          (fun _ _ stored => stored)
    · exact unchanged
  | webhook i delivery lag =>
    rw [AlertRuns.step, advance]
    split
    · rename_i isPosted
      split
      · rename_i map stored
        rcases consistent.stored_links stored with rfl | ⟨_, row, free, found, rfl⟩
        · exact unchanged
        · obtain ⟨member, sameBot, sameAlias⟩ := AlertMap.row?_some found
          refine consistent.next consistent.pendingPosted (fun _ listed => listed) ?_ ?_
          · intro second listed
            rcases (AlertMap.mem_write free).mp listed with rfl | ⟨before, _⟩
            · exact (rowsNow row member).link isPosted (Prod.ext sameBot sameAlias)
            · exact rowsNow second before
          · exact fun _ _ => AlertMap.row?_write_isSome free
      · exact consistent.next consistent.pendingPosted (fun _ listed => listed) rowsNow
          (fun _ _ stored => stored)
      · exact unchanged
    · exact unchanged

/-- Every state of a run from an empty table is consistent. This is the invariant that the results
about runs start from. -/
theorem consistent_run (events : List (RunEvent alert)) :
    Consistent alert (run AlertRuns.step (.initial .empty) events) := by
  have always : Guarded AlertRuns.step (fun _ _ => True) (.initial .empty) events :=
    guarded_of_forall (fun _ _ => trivial) _ events
  exact invariant_run (fun _ event holds _ => holds.step event) _ events consistent_initial always

end Steps

end AlertRuns

end Thaum.Jira
