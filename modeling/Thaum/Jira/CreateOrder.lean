import Thaum.Jira.StatusRouting

/-!
# A Create webhook before the pending row

`trigger_alert` posts an alert first and records its pending row second, so a Create
may be applied in between. A Create that finds no row leaves nothing behind, and the
row recorded after it stays without a Jira id until another Create arrives.
-/

namespace Thaum.Jira.AlertRuns

open PyText PyJson KeyedRows GuardedRuns

variable {ι : Type} {alert : ι → TriggeredAlert} {i : ι}

/-- The alert a step is about. -/
def RunEvent.index : RunEvent alert → ι
  | .post i => i
  | .record i _ => i
  | .webhook i _ _ => i

/-- A delivery of the Create webhook of an alert whose transaction commits if it can. -/
def IsCreate (i : ι) : RunEvent alert → Prop
  | .webhook j delivery _ => j = i ∧ delivery.action = "Create".toList ∧ delivery.commits = true
  | _ => False

/-- No two alerts with rows of their own have one Jira id. -/
def IdsApart (alert : ι → TriggeredAlert) : Prop :=
  ∀ i j, (alert i).jiraId.text = (alert j).jiraId.text → (alert i).key = (alert j).key

/-- The row of an alert with the Jira id of its webhook. -/
def linkedRow (alert : TriggeredAlert) : JiraAlertMap := alert.row (some alert.jiraId.text)

variable {state : RunState ι} {row : JiraAlertMap}

/-- The unique index lets the row of an alert carry the Jira id of the alert, as no other row has an
alert with that id. -/
theorem Consistent.free_link (consistent : Consistent alert state) (apart : IdsApart alert)
    (found : rowOf (alert i) state.map = some row) :
    Free JiraAlertMap.key JiraAlertMap.jiraAlertId
      { row with jiraAlertId := some (alert i).jiraId.text } state.map.rows := by
  intro second stored _ same
  obtain ⟨j, _, keyed, isId⟩ := (consistent.rows _ List.mem_cons_self second stored).linked _ same
  obtain ⟨_, sameBot, sameAlias⟩ := AlertMap.row?_some found
  rw [keyed, ← apart i j isId]
  exact (Prod.ext sameBot sameAlias).symm

/-- A committing Create of a stored row stores the row with the Jira id, however old the table was
that it read first. -/
theorem Consistent.create_handled (consistent : Consistent alert state) (apart : IdsApart alert)
    {delivery : Delivery (alert i)} (isCreate : delivery.action = "Create".toList)
    (commits : delivery.commits = true) (lag : Nat)
    (found : rowOf (alert i) state.map = some row) :
    delivery.handled (state.mapAt lag) state.map =
      .stored (state.map.write { row with jiraAlertId := some (alert i).jiraId.text }
        (consistent.free_link apart found)) := by
  rw [consistent.create_linked isCreate found, commits, if_pos rfl, AlertMap.write?,
    dif_pos (consistent.free_link apart found)]
  rfl

section Steps

variable [DecidableEq ι]

/-- A Create links the row of its alert if it is stored, and otherwise changes nothing. Nothing of
it is kept for a row that comes later. -/
theorem create_step (consistent : Consistent alert state) (apart : IdsApart alert)
    (isPosted : i ∈ state.posted) {event : RunEvent alert} (isCreate : IsCreate i event) :
    (step state event).posted = state.posted ∧ (step state event).pending = state.pending ∧
      rowOf (alert i) (step state event).map = (rowOf (alert i) state.map).map fun row =>
        { row with jiraAlertId := some (alert i).jiraId.text } := by
  cases event with
  | post j => exact isCreate.elim
  | record j commits => exact isCreate.elim
  | webhook j delivery lag =>
    obtain ⟨rfl, isAction, commits⟩ := isCreate
    rw [step, advance, if_pos isPosted]
    cases found : rowOf (alert j) state.map with
    | some row =>
      rw [consistent.create_handled apart isAction commits lag found]
      obtain ⟨_, sameBot, sameAlias⟩ := AlertMap.row?_some found
      refine ⟨rfl, rfl, ?_⟩
      rw [rowOf, ← sameBot, ← sameAlias]
      exact AlertMap.row?_write_same (consistent.free_link apart found)
    | none =>
      split
      · rename_i map stored
        rcases consistent.stored_links stored with rfl | ⟨_, row, _, stored, _⟩
        · exact ⟨rfl, rfl, found⟩
        · rw [rowOf, stored] at found
          exact absurd found (Option.some_ne_none row)
      · exact ⟨rfl, rfl, found⟩
      · exact ⟨rfl, rfl, found⟩

/-- A list of Creates links the row of their alert if it is stored, and otherwise changes nothing.
The induction is on the list. -/
theorem creates_run (apart : IdsApart alert) {creates : List (RunEvent alert)}
    (consistent : Consistent alert state) (isPosted : i ∈ state.posted)
    (areCreates : ∀ event ∈ creates, IsCreate i event) :
    Consistent alert (run step state creates) ∧
      (run step state creates).pending = state.pending ∧
      rowOf (alert i) (run step state creates).map =
        (rowOf (alert i) state.map).map fun row =>
          if creates = [] then row else { row with jiraAlertId := some (alert i).jiraId.text } := by
  induction creates generalizing state with
  | nil => simp [consistent]
  | cons event rest inductionHypothesis =>
    obtain ⟨isCreate, others⟩ := List.forall_mem_cons.mp areCreates
    obtain ⟨posted, pending, linked⟩ := create_step consistent apart isPosted isCreate
    obtain ⟨stays, stillPending, row⟩ :=
      inductionHypothesis (consistent.step event) (posted ▸ isPosted) others
    refine ⟨stays, stillPending.trans pending, ?_⟩
    rw [run_cons, row, linked, Option.map_map]
    cases rowOf (alert i) state.map with
    | none => rfl
    | some before =>
      simp only [Option.map_some, Function.comp, List.cons_ne_nil, if_false]
      split <;> rfl

/-- Recording a posted alert with a bot key and a room stores its row, with the Jira id
the row had before. -/
theorem record_step (isPending : i ∈ state.pending) (keyed : NonBlank (alert i).botKey)
    (roomed : NonBlank (alert i).roomId) :
    rowOf (alert i) (step state (.record i true : RunEvent alert)).map =
      some ((alert i).row (linkOf (alert i) state.map)) := by
  rw [step, advance, if_pos isPending]
  dsimp only
  rw [upsertPendingRow_alert, if_pos ⟨keyed, roomed⟩, if_pos rfl]
  exact AlertMap.row?_write_same (row_free _ _)

/-- An alert is posted after a step if it was before, or if the step is its POST. -/
theorem mem_posted_step {event : RunEvent alert} :
    i ∈ (step state event).posted ↔ i ∈ state.posted ∨ event = .post i := by
  cases event with
  | post j =>
    rw [step, advance]
    split
    · rename_i already
      simp only [RunEvent.post.injEq]
      exact ⟨Or.inl, fun either => either.elim id fun same => same ▸ already⟩
    · simp [or_comm, eq_comm]
  | record j commits =>
    rw [step, advance]
    split
    · dsimp only
      split <;> simp
    · simp
  | webhook j delivery lag =>
    rw [step, advance]
    split
    · split <;> simp
    · simp

/-- The posted alerts of a run are those of its posts. -/
theorem mem_posted_run {events : List (RunEvent alert)} :
    i ∈ (run step state events).posted ↔ i ∈ state.posted ∨ .post i ∈ events := by
  induction events generalizing state with
  | nil => simp
  | cons event rest inductionHypothesis =>
    rw [run_cons, inductionHypothesis, mem_posted_step, List.mem_cons, or_assoc, @eq_comm _ event]

/-- After the steps of one alert its row holds what was triggered and the Jira id exactly where the
bot and the room have ids and either a row of the alias was there before or a Create arrives after
the pending row.

Proof: the steps are gone through in their order. Creates before the pending row link a row that is
there, and the pending row keeps that link; without such a row they leave nothing. Creates after it
link it. -/
theorem alert_linked_iff (alert : ι → TriggeredAlert) (apart : IdsApart alert) (i : ι)
    (history before after : List (RunEvent alert))
    (unrelated : ∀ event ∈ history, event.index ≠ i)
    (creates : ∀ event ∈ before ++ after, IsCreate i event)
    (delivered : before ++ after ≠ []) :
    rowOf (alert i) (run step (.initial .empty)
        (history ++ .post i :: before ++ .record i true :: after)).map =
      some (linkedRow (alert i)) ↔
    NonBlank (alert i).botKey ∧ NonBlank (alert i).roomId ∧
      ((rowOf (alert i) (run step (.initial .empty) history).map).isSome = true ∨
        after ≠ []) := by
  have start := consistent_run history
  have fresh : i ∉ (run step (.initial .empty) history).posted := by
    rw [mem_posted_run]
    rintro (initially | isPost)
    · exact List.not_mem_nil initially
    · exact unrelated _ isPost rfl
  simp only [List.append_assoc, List.cons_append, run_append, run_cons]
  generalize run step (.initial .empty) history = state at start fresh
  obtain ⟨beforeCreates, afterCreates⟩ := List.forall_mem_append.mp creates
  have posted : step state (.post i : RunEvent alert) =
      { state with
        posted := i :: state.posted, pending := i :: state.pending
        past := state.map :: state.past } := by
    rw [step, advance, if_neg fresh]
  have isPosted : i ∈ (step state (.post i : RunEvent alert)).posted := by simp [posted]
  obtain ⟨atRecord, stillPending, rowAtRecord⟩ :=
    creates_run apart (start.step (.post i)) isPosted beforeCreates
  rw [posted] at atRecord stillPending rowAtRecord ⊢
  generalize run step _ before = created at atRecord stillPending rowAtRecord ⊢
  have isPending : i ∈ created.pending := stillPending ▸ List.mem_cons_self
  have stillPosted : i ∈ (step created (.record i true : RunEvent alert)).posted :=
    mem_posted_step.mpr (Or.inl (atRecord.pendingPosted i isPending))
  obtain ⟨atEnd, _, rowAtEnd⟩ :=
    creates_run apart (atRecord.step (.record i true)) stillPosted afterCreates
  by_cases named : NonBlank (alert i).botKey ∧ NonBlank (alert i).roomId
  · rw [rowAtEnd, record_step isPending named.1 named.2, linkOf, rowAtRecord]
    by_cases noneAfter : after = []
    · have someBefore : before ≠ [] := by simpa [noneAfter] using delivered
      cases rowOf (alert i) state.map with
      | none => simp [noneAfter, named, linkedRow, TriggeredAlert.row]
      | some row => simp [noneAfter, someBefore, named, linkedRow]
    · simp [noneAfter, named, linkedRow, TriggeredAlert.row]
  · refine iff_of_false (fun stored => named ?_) fun holds => named ⟨holds.1, holds.2.1⟩
    have of := atEnd.rows _ List.mem_cons_self _ (AlertMap.row?_some stored).1
    exact ⟨of.keyed, of.roomed⟩

end Steps

section Example

/-- One Create of the first alert. -/
def oneCreate : List (RunEvent twoAlerts) :=
  [.webhook false (plainDelivery _ "Create".toList) 0]

/-- The delivery of the example is a Create. -/
theorem oneCreate_isCreate : ∀ event ∈ oneCreate, IsCreate false event := by
  intro event listed
  obtain rfl := List.mem_singleton.mp listed
  exact ⟨rfl, by decide, rfl⟩

/-- The alerts of the example have Jira ids of their own. -/
theorem twoAlerts_idsApart : IdsApart twoAlerts := by
  intro i j same
  rw [twoAlerts_separate.ids i j same]

/-- The row of an alert stays without its Jira id if the Create is applied before the
pending row is recorded. -/
theorem overtaking_create_lost :
    rowOf (twoAlerts false) (run step (.initial .empty)
        (.post false :: oneCreate ++ [.record false true])).map =
      some ((twoAlerts false).row none) ∧
    (twoAlerts false).row none ≠ linkedRow (twoAlerts false) := by
  decide +kernel

/-- A second Create after the pending row links it. -/
theorem repeated_create_linked :
    rowOf (twoAlerts false) (run step (.initial .empty)
        ([] ++ .post false :: oneCreate ++ .record false true :: oneCreate)).map =
      some (linkedRow (twoAlerts false)) :=
  (alert_linked_iff twoAlerts twoAlerts_idsApart false [] oneCreate oneCreate (by simp)
    (List.forall_mem_append.mpr ⟨oneCreate_isCreate, oneCreate_isCreate⟩) (by simp [oneCreate])).mpr
    ⟨by decide, by decide, Or.inr (List.cons_ne_nil _ _)⟩

end Example

end Thaum.Jira.AlertRuns
