import Thaum.Leader.InitBarrier

/-!
# What releases a follower

A follower decides from sampled rows: the ticket of the first row it reads is its
baseline, and DONE counts under a higher ticket or once RUNNING was seen. Between
its polls any number of leaders may commit RUNNING, DONE and FAILED in any order.

As long as no DONE has been committed since the first reading, the row says DONE
only under the baseline ticket and only to a follower that has not seen RUNNING.
Hence a follower that is released was still waiting when some leader committed DONE
after the first reading, whatever an earlier start left in the row.
-/

namespace Thaum.LeaderInit

open PyText GuardedRuns

/-- The poll finds a row. -/
def Reads (deadline : Nat) (state : Startup) (poll : Poll) : Prop :=
  state.row.isSome = true ∧ poll.checked ≤ deadline

/-- No poll has found a row. -/
def Unread (deadline : Nat) (leftover : Option LeaderInitStatus) (events : List Event) : Prop :=
  ∀ earlier first later, events = earlier ++ .poll first :: later →
    ¬ Reads deadline (run (step deadline) (enter leftover) earlier) first

/-- The poll finds a row and no poll before it did. -/
def FirstReading (deadline : Nat) (leftover : Option LeaderInitStatus) (before : List Event)
    (poll : Poll) : Prop :=
  Reads deadline (run (step deadline) (enter leftover) before) poll ∧
    Unread deadline leftover before

/-- The first reading is among the events, and after it a DONE is committed while the
follower is still waiting. -/
def DoneAfterReading (deadline : Nat) (leftover : Option LeaderInitStatus)
    (events : List Event) : Prop :=
  ∃ before poll middle now after,
    events = before ++ .poll poll :: (middle ++ .markDone now :: after) ∧
      FirstReading deadline leftover before poll ∧
      ∃ progress, (run (step deadline) (enter leftover) (before ++ .poll poll :: middle)).wait =
        .waiting progress

/-- The first reading is among the events. -/
def WasRead (deadline : Nat) (leftover : Option LeaderInitStatus) (events : List Event) : Prop :=
  ∃ before poll middle, events = before ++ .poll poll :: middle ∧
    FirstReading deadline leftover before poll

/-- The row does not release a follower with the baseline. -/
structure Withheld (baseline : Int) (sawRunning : Bool) (row : LeaderInitStatus) : Prop where
  ticket : baseline ≤ row.barrierTicket
  bumped : baseline < row.barrierTicket → row.state ≠ .done
  seen : sawRunning = true → row.state ≠ .done

/-- What holds of a follower and the events that led to it. -/
structure Accounted (deadline : Nat) (leftover : Option LeaderInitStatus)
    (events : List Event) : Prop where
  unread : ∀ progress, (run (step deadline) (enter leftover) events).wait = .waiting progress →
    progress.baseline = none → progress.sawRunning = false ∧ Unread deadline leftover events
  read : ∀ progress baseline,
    (run (step deadline) (enter leftover) events).wait = .waiting progress →
      progress.baseline = some baseline → WasRead deadline leftover events ∧
        (DoneAfterReading deadline leftover events ∨
          ∃ row, (run (step deadline) (enter leftover) events).row = some row ∧
            Withheld baseline progress.sawRunning row)
  released : (run (step deadline) (enter leftover) events).wait = .returned →
    DoneAfterReading deadline leftover events

variable {deadline : Nat} {leftover : Option LeaderInitStatus} {events : List Event} {event : Event}
  {row : LeaderInitStatus} {progress : Progress} {baseline : Int} {sawRunning : Bool}

/-- A run over one more event is that event after the run, so that invariants of runs go by
induction from the right. -/
theorem run_snoc (state : Startup) (events : List Event) (event : Event) :
    run (step deadline) state (events ++ [event]) =
      step deadline (run (step deadline) state events) event := by
  rw [run_append, run_cons, run_nil]

/-- Before any event no poll has found a row. -/
theorem Unread.nil : Unread deadline leftover [] := by
  intro earlier first later split
  simp at split

/-- An event that is no poll, or a poll that finds no row, leaves the row unread. -/
theorem Unread.snoc (unread : Unread deadline leftover events)
    (unfound : ∀ poll, event = .poll poll →
      ¬ Reads deadline (run (step deadline) (enter leftover) events) poll) :
    Unread deadline leftover (events ++ [event]) := by
  intro earlier first later split
  rcases List.eq_nil_or_concat later with rfl | ⟨others, last, rfl⟩
  · obtain ⟨rfl, isFirst⟩ := List.append_inj' split rfl
    exact unfound first (List.cons.inj isFirst).1
  · rw [List.concat_eq_append, ← List.cons_append, ← List.append_assoc] at split
    exact unread earlier first others (List.append_inj' split rfl).1

/-- A first reading stays among the events. -/
theorem WasRead.snoc (wasRead : WasRead deadline leftover events) (event : Event) :
    WasRead deadline leftover (events ++ [event]) := by
  obtain ⟨before, poll, middle, rfl, first⟩ := wasRead
  exact ⟨before, poll, middle ++ [event], by simp, first⟩

/-- A DONE committed after the first reading stays one. -/
theorem DoneAfterReading.snoc (done : DoneAfterReading deadline leftover events) (event : Event) :
    DoneAfterReading deadline leftover (events ++ [event]) := by
  obtain ⟨before, poll, middle, now, after, rfl, first, waiting⟩ := done
  exact ⟨before, poll, middle, now, after ++ [event], by simp, first, waiting⟩

/-- A poll that finds a row when none did before is the first reading. The events so far are its
past. -/
theorem WasRead.of_unread (unread : Unread deadline leftover events) {poll : Poll}
    (reads : Reads deadline (run (step deadline) (enter leftover) events) poll) :
    WasRead deadline leftover (events ++ [.poll poll]) :=
  ⟨events, poll, [], rfl, reads, unread⟩

/-- A DONE committed while a follower waits that has read a row is one after the first reading. -/
theorem DoneAfterReading.of_wasRead (wasRead : WasRead deadline leftover events)
    (waiting : (run (step deadline) (enter leftover) events).wait = .waiting progress)
    (now : Nat) : DoneAfterReading deadline leftover (events ++ [.markDone now]) := by
  obtain ⟨before, poll, middle, rfl, first⟩ := wasRead
  exact ⟨before, poll, middle, now, [], by simp, first, progress, waiting⟩

/-- A row that does not release a follower leaves it waiting with its baseline, or makes it raise.
The row stays withheld for what the follower then knows. -/
theorem Withheld.observe (withheld : Withheld baseline progress.sawRunning row)
    (isBaseline : progress.baseline.getD row.barrierTicket = baseline) (stamped : Nat) :
    (∃ message, observe row stamped progress = .raised message) ∨
      ∃ reached, observe row stamped progress = .waiting reached ∧
        reached.baseline = some baseline ∧ Withheld baseline reached.sawRunning row := by
  obtain ⟨ticket, bumped, seen⟩ := withheld
  subst isBaseline
  cases state : row.state with
  | idle =>
    simp only [LeaderInit.observe, state]
    exact Or.inr ⟨_, rfl, rfl, ticket, by simp [state], by simp [state]⟩
  | running =>
    simp only [LeaderInit.observe, state]
    exact Or.inr ⟨_, rfl, rfl, ticket, by simp [state], by simp [state]⟩
  | failed =>
    simp only [LeaderInit.observe, state]
    split
    · exact Or.inl ⟨_, rfl⟩
    · split
      · exact Or.inr ⟨_, rfl, rfl, ticket, by simp [state], by simp [state]⟩
      · split
        · exact Or.inl ⟨_, rfl⟩
        · exact Or.inr ⟨_, rfl, rfl, ticket, by simp [state], by simp [state]⟩
  | done =>
    have same : ¬ progress.baseline.getD row.barrierTicket < row.barrierTicket :=
      fun higher => bumped higher state
    have unseen : ¬ progress.sawRunning = true := fun saw => seen saw state
    have stays : ¬ (progress.baseline.getD row.barrierTicket < row.barrierTicket ∨
        progress.sawRunning = true) := not_or.mpr ⟨same, unseen⟩
    simp only [LeaderInit.observe, state, if_neg stays]
    exact Or.inr ⟨_, rfl, rfl, ticket, bumped, seen⟩

/-- A row read for the first time releases nobody: its ticket is the baseline, and RUNNING has not
been seen before. -/
theorem Withheld.first (row : LeaderInitStatus) : Withheld row.barrierTicket false row :=
  ⟨Int.le_refl _, fun higher => absurd higher (Int.lt_irrefl _), by simp⟩

/-- RUNNING leaves the row withheld: its state is not DONE, whatever its ticket. -/
theorem Withheld.running (withheld : Withheld baseline sawRunning row) (now : Nat) :
    Withheld baseline sawRunning (markLeaderInitRunning (some row) now) := by
  refine ⟨?_, fun _ => by simp [markLeaderInitRunning], fun _ => by simp [markLeaderInitRunning]⟩
  rw [running_ticket]
  exact Int.le_trans withheld.ticket (Int.le_of_lt (Int.lt_succ _))

/-- FAILED leaves the row withheld, for the same reason. -/
theorem Withheld.failed (withheld : Withheld baseline sawRunning row) (message : Text)
    (now : Nat) : Withheld baseline sawRunning (markLeaderInitFailed (some row) message now) :=
  ⟨withheld.ticket, fun _ => by simp [markLeaderInitFailed],
    fun _ => by simp [markLeaderInitFailed]⟩

/-- A poll that leaves a follower waiting leaves it with a baseline, the ticket of the row where it
had none. -/
theorem observe_baseline {reached : Progress} {stamped : Nat}
    (waits : observe row stamped progress = .waiting reached) :
    reached.baseline = some (progress.baseline.getD row.barrierTicket) := by
  unfold observe at waits
  dsimp only at waits
  split at waits
  · exact Wait.waiting.inj waits ▸ rfl
  · exact Wait.waiting.inj waits ▸ rfl
  · split at waits
    · simp at waits
    · split at waits
      · exact Wait.waiting.inj waits ▸ rfl
      · split at waits
        · simp at waits
        · exact Wait.waiting.inj waits ▸ rfl
  · split at waits
    · simp at waits
    · exact Wait.waiting.inj waits ▸ rfl

/-- A commit other than DONE keeps a withheld row withheld, and a DONE is itself the commit the
account speaks of. In both cases the follower does not move. -/
theorem Accounted.commit (accounted : Accounted deadline leftover events)
    (noPoll : ∀ poll, event ≠ .poll poll)
    (sameWait : ∀ state, (step deadline state event).wait = state.wait)
    (isDone : (∃ now, event = .markDone now) ∨
      ∀ state baseline sawRunning row, state.row = some row → Withheld baseline sawRunning row →
        ∃ after, (step deadline state event).row = some after ∧
          Withheld baseline sawRunning after) :
    Accounted deadline leftover (events ++ [event]) := by
  constructor
  · intro progress waiting unread
    rw [run_snoc, sameWait] at waiting
    obtain ⟨unseen, none⟩ := accounted.unread progress waiting unread
    exact ⟨unseen, none.snoc fun poll isPoll => absurd isPoll (noPoll poll)⟩
  · intro progress baseline waiting isBaseline
    rw [run_snoc, sameWait] at waiting
    obtain ⟨wasRead, settled⟩ := accounted.read progress baseline waiting isBaseline
    refine ⟨wasRead.snoc event, ?_⟩
    rcases settled with done | ⟨row, isRow, withheld⟩
    · exact Or.inl (done.snoc event)
    · rcases isDone with ⟨now, rfl⟩ | keeps
      · exact Or.inl (.of_wasRead wasRead waiting now)
      · rw [run_snoc]
        exact Or.inr (keeps _ baseline progress.sawRunning row isRow withheld)
  · intro returned
    rw [run_snoc, sameWait] at returned
    exact (accounted.released returned).snoc event

/-- Of a follower that has raised nothing is claimed. -/
theorem Accounted.of_raised {message : Text}
    (raised : (run (step deadline) (enter leftover) events).wait = .raised message) :
    Accounted deadline leftover events := by
  constructor
  · intro progress waiting
    simp [raised] at waiting
  · intro progress baseline waiting
    simp [raised] at waiting
  · intro returned
    simp [raised] at returned

/-- What a reading of the row leaves of the account. The cases are whether a row was read before and
whether a DONE has been committed since. -/
theorem Accounted.observed (accounted : Accounted deadline leftover events) {poll : Poll}
    (waits : (run (step deadline) (enter leftover) events).wait = .waiting progress)
    (found : (run (step deadline) (enter leftover) events).row = some row)
    (prompt : poll.checked ≤ deadline) :
    Accounted deadline leftover (events ++ [.poll poll]) := by
  have sameRow : (run (step deadline) (enter leftover) (events ++ [.poll poll])).row =
      some row := by
    rw [run_snoc]
    exact found
  have observes : (run (step deadline) (enter leftover) (events ++ [.poll poll])).wait =
      observe row poll.stamped progress := by
    rw [run_snoc, step, waits, found]
    exact pollOnce_prompt prompt row
  have wasRead : WasRead deadline leftover (events ++ [.poll poll]) := by
    cases isBaseline : progress.baseline with
    | none =>
      have reads : Reads deadline (run (step deadline) (enter leftover) events) poll :=
        ⟨by rw [found]; rfl, prompt⟩
      exact .of_unread (accounted.unread progress waits isBaseline).2 reads
    | some baseline => exact (accounted.read progress baseline waits isBaseline).1.snoc _
  have settled : DoneAfterReading deadline leftover events ∨
      Withheld (progress.baseline.getD row.barrierTicket) progress.sawRunning row := by
    cases isBaseline : progress.baseline with
    | none =>
      rw [(accounted.unread progress waits isBaseline).1]
      exact Or.inr (.first row)
    | some baseline =>
      rcases (accounted.read progress baseline waits isBaseline).2 with done | ⟨other, same, kept⟩
      · exact Or.inl done
      · obtain rfl := Option.some.inj (found.symm.trans same)
        exact Or.inr kept
  constructor
  · intro reached waiting none
    rw [observes] at waiting
    rw [observe_baseline waiting] at none
    simp at none
  · intro reached baseline waiting isBaseline
    rw [observes] at waiting
    refine ⟨wasRead, ?_⟩
    rcases settled with done | withheld
    · exact Or.inl (done.snoc _)
    · rcases withheld.observe rfl poll.stamped with ⟨message, raises⟩ | ⟨after, stays, based, kept⟩
      · simp [raises] at waiting
      · obtain rfl := Wait.waiting.inj (stays.symm.trans waiting)
        obtain rfl := Option.some.inj (based.symm.trans isBaseline)
        exact Or.inr ⟨row, sameRow, kept⟩
  · intro returned
    rw [observes] at returned
    rcases settled with done | withheld
    · exact done.snoc _
    · rcases withheld.observe rfl poll.stamped with ⟨message, raises⟩ | ⟨after, stays, _⟩
      · simp [raises] at returned
      · simp [stays] at returned

/-- A poll that finds no row, or of a call that has ended, changes nothing, and the account is
carried over. -/
theorem Accounted.unchanged (accounted : Accounted deadline leftover events) {poll : Poll}
    (same : run (step deadline) (enter leftover) (events ++ [.poll poll]) =
      run (step deadline) (enter leftover) events)
    (unread : ∀ progress,
      (run (step deadline) (enter leftover) events).wait = .waiting progress →
        (run (step deadline) (enter leftover) events).row = none) :
    Accounted deadline leftover (events ++ [.poll poll]) := by
  constructor
  · intro progress waiting none
    rw [same] at waiting
    obtain ⟨unseen, unfound⟩ := accounted.unread progress waiting none
    refine ⟨unseen, unfound.snoc fun _ _ reads => ?_⟩
    rw [Reads, unread progress waiting] at reads
    simp at reads
  · intro progress baseline waiting isBaseline
    rw [same] at waiting ⊢
    obtain ⟨wasRead, settled⟩ := accounted.read progress baseline waiting isBaseline
    exact ⟨wasRead.snoc _, settled.imp_left fun done => done.snoc _⟩
  · intro returned
    rw [same] at returned
    exact (accounted.released returned).snoc _

/-- Every event keeps the account, one case for each of the three commits and one for the poll. -/
theorem Accounted.snoc (accounted : Accounted deadline leftover events) (event : Event) :
    Accounted deadline leftover (events ++ [event]) := by
  cases event with
  | markRunning now =>
    refine accounted.commit (by simp) (fun _ => rfl) (Or.inr ?_)
    intro state baseline sawRunning row found withheld
    exact ⟨_, by rw [step, found], withheld.running now⟩
  | markDone now => exact accounted.commit (by simp) (fun _ => rfl) (Or.inl ⟨now, rfl⟩)
  | markFailed message now =>
    refine accounted.commit (by simp) (fun _ => rfl) (Or.inr ?_)
    intro state baseline sawRunning row found withheld
    exact ⟨_, by rw [step, found], withheld.failed message now⟩
  | poll poll =>
    cases waits : (run (step deadline) (enter leftover) events).wait with
    | returned =>
      refine accounted.unchanged ?_ (by simp [waits])
      rw [run_snoc, step, waits]
      exact congrArg (Startup.mk _) waits.symm
    | raised message =>
      refine accounted.unchanged ?_ (by simp [waits])
      rw [run_snoc, step, waits]
      exact congrArg (Startup.mk _) waits.symm
    | waiting progress =>
      by_cases late : deadline < poll.checked
      · have raised : (run (step deadline) (enter leftover) (events ++ [.poll poll])).wait =
            .raised timedOut := by
          rw [run_snoc, step, waits]
          exact if_pos late
        exact .of_raised raised
      · cases found : (run (step deadline) (enter leftover) events).row with
        | none =>
          refine accounted.unchanged ?_ fun _ _ => found
          rw [run_snoc, step, waits, found, pollOnce, if_neg late]
          exact congr (congrArg Startup.mk found.symm) waits.symm
        | some row => exact accounted.observed waits found (Nat.not_lt.mp late)

/-- Every run is accounted for, by induction on the events from the right. -/
theorem accounted (deadline : Nat) (leftover : Option LeaderInitStatus) (events : List Event) :
    Accounted deadline leftover events := by
  induction events using List.reverseRecOn with
  | nil =>
    constructor
    · intro progress waiting _
      obtain rfl := Wait.waiting.inj waiting
      exact ⟨rfl, .nil⟩
    · intro progress baseline waiting isBaseline
      obtain rfl := Wait.waiting.inj waiting
      simp [Progress.start] at isBaseline
    · intro returned
      simp [enter] at returned
  | append_singleton events event inductionHypothesis => exact inductionHypothesis.snoc event

/-- A follower is released only where, after its first reading of the row, some leader committed
DONE while it was waiting.

Proof: the account of a run says what a follower in each state has met. It holds at the start and
every event keeps it, and for a follower that has returned it is the statement. -/
theorem released_after_done (deadline : Nat) (leftover : Option LeaderInitStatus)
    (events : List Event)
    (released : (run (step deadline) (enter leftover) events).wait = .returned) :
    DoneAfterReading deadline leftover events :=
  (accounted deadline leftover events).released released

/-- A follower that read the DONE of an earlier start, and then the DONE of a cycle it did not
otherwise see. Its release has a DONE after the first reading behind it. -/
theorem restarted_cycle_releases :
    DoneAfterReading 60000000000
      (some { barrierTicket := 4, state := .done, errorMessage := none, updatedAt := 0 })
      [.poll ⟨0, 0⟩, .markRunning 1, .markDone 2, .poll ⟨1000000000, 1000000000⟩] :=
  released_after_done _ _ _ (by decide)

end Thaum.LeaderInit
