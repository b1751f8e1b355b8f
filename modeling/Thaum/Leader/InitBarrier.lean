import Thaum.Library.GuardedRuns
import Thaum.Library.PyText

/-!
# The leader init barrier

At start one worker is elected leader. It commits RUNNING with a bumped ticket to
a singleton row, runs its init tasks and commits DONE or FAILED. Every other
worker polls the row and decides from the sampled tickets and states whether the
leader's cycle has ended.

Monotonic clock readings and the deadline count nanoseconds. A poll carries the
reading compared with the deadline and the one taken when the row says FAILED.
Sleeping between polls, logging and the registered init tasks themselves are not
modelled: the events are the transactions and the polls, in any order.
-/

namespace Thaum.LeaderInit

open PyText GuardedRuns

/-- The states of the row. -/
inductive InitState where
  | idle | running | done | failed
deriving DecidableEq

/-- The row `id = LEADER_INIT_ROW_ID`. -/
structure LeaderInitStatus where
  barrierTicket : Int
  state : InitState
  errorMessage : Option Text
  updatedAt : Nat
deriving DecidableEq

/-- `_ensure_row`. -/
def ensureRow (row : Option LeaderInitStatus) (now : Nat) : LeaderInitStatus :=
  row.getD { barrierTicket := 0, state := .idle, errorMessage := none, updatedAt := now }

/-- `mark_leader_init_running`: the ticket is bumped and any earlier error is cleared. -/
def markLeaderInitRunning (row : Option LeaderInitStatus) (now : Nat) : LeaderInitStatus :=
  { barrierTicket := (ensureRow row now).barrierTicket + 1, state := .running
    errorMessage := none, updatedAt := now }

/-- `mark_leader_init_done`, under the ticket that the row has. -/
def markLeaderInitDone (row : Option LeaderInitStatus) (now : Nat) : LeaderInitStatus :=
  { ensureRow row now with state := .done, errorMessage := none, updatedAt := now }

/-- `mark_leader_init_failed`, which keeps the ticket and notes the message. -/
def markLeaderInitFailed (row : Option LeaderInitStatus) (message : Text) (now : Nat) :
    LeaderInitStatus :=
  { ensureRow row now with
    state := .failed, errorMessage := some (message.take 1024), updatedAt := now }

/-- The local variables of a waiting follower. -/
structure Progress where
  baseline : Option Int
  sawRunning : Bool
  failedSeenAt : Option Nat
deriving DecidableEq

/-- The locals before the first poll: no baseline, RUNNING not seen and no failure stamped. -/
def Progress.start : Progress := { baseline := none, sawRunning := false, failedSeenAt := none }

/-- A call of `wait_for_leader_init_barrier`: still polling, returned, or raised. -/
inductive Wait where
  | waiting : Progress → Wait
  | returned : Wait
  | raised : (message : Text) → Wait
deriving DecidableEq

/-- The message of the `TimeoutError`. -/
def timedOut : Text := "Leader init barrier wait timed out".toList

/-- `row.error_message or "leader init failed"`. -/
def failureMessage (row : LeaderInitStatus) : Text :=
  orElse (row.errorMessage.getD []) "leader init failed".toList

/-- Two seconds. -/
def failedGrace : Nat := 2000000000

/-- What a poll concludes from the row it reads. -/
def observe (row : LeaderInitStatus) (stamped : Nat) (progress : Progress) : Wait :=
  let baseline := progress.baseline.getD row.barrierTicket
  let progress := { progress with baseline := some baseline }
  match row.state with
  | .idle => .waiting progress
  | .running => .waiting { progress with sawRunning := true, failedSeenAt := none }
  | .failed =>
    if baseline < row.barrierTicket ∨ progress.sawRunning then .raised (failureMessage row)
    else match progress.failedSeenAt with
      | none => .waiting { progress with failedSeenAt := some stamped }
      | some seen =>
        if seen + failedGrace ≤ stamped then .raised (failureMessage row) else .waiting progress
  | .done =>
    if baseline < row.barrierTicket ∨ progress.sawRunning then .returned else .waiting progress

/-- The reading compared with the deadline, and the one stamped on a FAILED row. -/
structure Poll where
  checked : Nat
  stamped : Nat
deriving DecidableEq

/-- One turn of the loop of `wait_for_leader_init_barrier`. -/
def pollOnce (deadline : Nat) (row : Option LeaderInitStatus) (poll : Poll) : Wait → Wait
  | .waiting progress =>
    if deadline < poll.checked then .raised timedOut
    else match row with
      | none => .waiting progress
      | some row => observe row poll.stamped progress
  | settled => settled

/-- The shared row and one follower. -/
structure Startup where
  row : Option LeaderInitStatus
  wait : Wait
deriving DecidableEq

/-- A transaction of some leader, with its clock, or a poll of the follower. -/
inductive Event where
  | markRunning : (now : Nat) → Event
  | markDone : (now : Nat) → Event
  | markFailed : (message : Text) → (now : Nat) → Event
  | poll : Poll → Event

/-- One event. Commits change the row only and polls change the follower only, which is what lets
the polls between two commits be taken together. -/
def step (deadline : Nat) (state : Startup) : Event → Startup
  | .markRunning now => { state with row := some (markLeaderInitRunning state.row now) }
  | .markDone now => { state with row := some (markLeaderInitDone state.row now) }
  | .markFailed message now =>
    { state with row := some (markLeaderInitFailed state.row message now) }
  | .poll poll => { state with wait := pollOnce deadline state.row poll state.wait }

/-- A follower entering the wait while the row is what an earlier start left. -/
def enter (leftover : Option LeaderInitStatus) : Startup :=
  { row := leftover, wait := .waiting .start }

/-- The polls of one follower over an unchanged row. -/
def pollAll (deadline : Nat) (row : Option LeaderInitStatus) (wait : Wait) (polls : List Poll) :
    Wait :=
  polls.foldl (fun wait poll => pollOnce deadline row poll wait) wait

/-- The polls were made before the deadline. -/
def Prompt (deadline : Nat) (polls : List Poll) : Prop := ∀ poll ∈ polls, poll.checked ≤ deadline

variable {deadline : Nat} {row : Option LeaderInitStatus} {polls before between after : List Poll}
  {progress : Progress} {wait : Wait}

/-- A run of polls leaves the row alone and is one fold over the follower. The proof is by induction
on the polls, for any state of the follower. -/
theorem run_polls (state : Startup) :
    run (step deadline) state (polls.map Event.poll) =
      { state with wait := pollAll deadline state.row state.wait polls } := by
  induction polls generalizing state with
  | nil => rfl
  | cons poll rest inductionHypothesis => exact inductionHypothesis _

/-- A poll before the deadline acts on the row it reads; only a late poll of a waiting follower
raises the timeout. -/
theorem pollOnce_prompt {poll : Poll} (prompt : poll.checked ≤ deadline) (row : LeaderInitStatus) :
    pollOnce deadline (some row) poll (.waiting progress) = observe row poll.stamped progress := by
  simp only [pollOnce, Nat.not_lt.mpr prompt, if_false]

/-- Polls that each leave the follower where it is leave it there together. It carries the polls of
a row that tells the follower nothing new. -/
theorem pollAll_fixed (fixed : ∀ poll ∈ polls, pollOnce deadline row poll wait = wait) :
    pollAll deadline row wait polls = wait := by
  induction polls with
  | nil => rfl
  | cons poll rest inductionHypothesis =>
    have here : pollOnce deadline row poll wait = wait := fixed poll List.mem_cons_self
    rw [pollAll, List.foldl_cons, here]
    exact inductionHypothesis fun other later => fixed other (List.mem_cons_of_mem poll later)

/-- A call that has returned makes no further poll. -/
theorem pollAll_returned : pollAll deadline row .returned polls = .returned :=
  pollAll_fixed fun _ _ => rfl

/-- A call that has raised makes no further poll. -/
theorem pollAll_raised {message : Text} :
    pollAll deadline row (.raised message) polls = .raised message :=
  pollAll_fixed fun _ _ => rfl

/-- Polls of which some raise and the others change nothing raise together: once the raising one has
come, the rest is not made. -/
theorem pollAll_raises {message : Text}
    (each : ∀ poll ∈ polls, pollOnce deadline row poll wait = wait ∨
      pollOnce deadline row poll wait = .raised message)
    (some_raises : ∃ poll ∈ polls, pollOnce deadline row poll wait = .raised message) :
    pollAll deadline row wait polls = .raised message := by
  induction polls with
  | nil => simp at some_raises
  | cons poll rest inductionHypothesis =>
    rw [pollAll, List.foldl_cons]
    rcases each poll List.mem_cons_self with unchanged | raises
    · rw [unchanged]
      obtain ⟨other, member, raises⟩ := some_raises
      rcases List.mem_cons.mp member with rfl | later
      · rw [unchanged.symm.trans raises]
        exact pollAll_raised
      · exact inductionHypothesis
          (fun other later => each other (List.mem_cons_of_mem poll later)) ⟨other, later, raises⟩
    · rw [raises]
      exact pollAll_raised

/-- A row left FAILED was polled first and again after the grace, before RUNNING. -/
def GraceSpent (leftover : Option LeaderInitStatus) (before : List Poll) : Prop :=
  ∃ row first rest, leftover = some row ∧ row.state = .failed ∧ before = first :: rest ∧
    ∃ poll ∈ rest, first.stamped + failedGrace ≤ poll.stamped

/-- Some poll read a row that the DONE commit had yet to replace. -/
def CycleSeen (leftover : Option LeaderInitStatus) (before between : List Poll) : Prop :=
  between ≠ [] ∨ (leftover ≠ none ∧ before ≠ [])

/-- A follower still waiting when RUNNING commits: its baseline is the left ticket
if it has read one, and it has seen RUNNING only on that row. -/
structure Entered (leftover : Option LeaderInitStatus) (before : List Poll)
    (progress : Progress) : Prop where
  baseline : progress.baseline =
    if before = [] then none else leftover.map LeaderInitStatus.barrierTicket
  anchored : progress.sawRunning = true → progress.baseline ≠ none

/-- The first reading of a row that is not FAILED settles what a follower knows of it: the ticket is
its baseline, and every later poll of the same row leaves it as it is. -/
theorem observe_left {row : LeaderInitStatus} (unfailed : row.state ≠ .failed) :
    ∃ progress, progress.baseline = some row.barrierTicket ∧
      (∀ stamped, observe row stamped .start = .waiting progress) ∧
      ∀ stamped, observe row stamped progress = .waiting progress := by
  cases state : row.state with
  | idle =>
    exact ⟨⟨some row.barrierTicket, false, none⟩, rfl, by simp [observe, state, Progress.start]⟩
  | running =>
    exact ⟨⟨some row.barrierTicket, true, none⟩, rfl, by simp [observe, state, Progress.start]⟩
  | done =>
    exact ⟨⟨some row.barrierTicket, false, none⟩, rfl, by simp [observe, state, Progress.start]⟩
  | failed => exact absurd state unfailed

/-- A follower that has stamped a row left FAILED raises once the grace is over. Until then it keeps
waiting, with the stamp of its first reading. -/
theorem observe_left_failed {row : LeaderInitStatus} (failed : row.state = .failed)
    (first stamped : Nat) :
    observe row stamped ⟨some row.barrierTicket, false, some first⟩ =
      if first + failedGrace ≤ stamped then .raised (failureMessage row)
      else .waiting ⟨some row.barrierTicket, false, some first⟩ := by
  simp [observe, failed]

/-- Before RUNNING commits a follower waits, or raises on a spent grace. Which of the two it is
depends only on the row an earlier start left and on the readings of the polls. -/
theorem polls_before_running {leftover : Option LeaderInitStatus}
    (prompt : Prompt deadline before) :
    (GraceSpent leftover before ∧
      ∃ message, pollAll deadline leftover (.waiting .start) before = .raised message) ∨
    (¬ GraceSpent leftover before ∧
      ∃ progress, pollAll deadline leftover (.waiting .start) before = .waiting progress ∧
        Entered leftover before progress) := by
  cases before with
  | nil => exact Or.inr ⟨by simp [GraceSpent], .start, rfl, ⟨rfl, by simp [Progress.start]⟩⟩
  | cons first rest =>
    obtain ⟨promptFirst, promptRest⟩ := List.forall_mem_cons.mp prompt
    cases leftover with
    | none =>
      refine Or.inr ⟨by simp [GraceSpent], .start, ?_, ⟨rfl, by simp [Progress.start]⟩⟩
      apply pollAll_fixed
      intro poll polled
      simp only [pollOnce, Nat.not_lt.mpr (prompt poll polled), if_false]
    | some row =>
      rw [pollAll, List.foldl_cons, pollOnce_prompt promptFirst]
      by_cases failed : row.state = .failed
      · have stamped : observe row first.stamped .start =
            .waiting ⟨some row.barrierTicket, false, some first.stamped⟩ := by
          simp [observe, failed, Progress.start]
        have later (poll : Poll) (polled : poll ∈ rest) :=
          (pollOnce_prompt (promptRest poll polled) row).trans
            (observe_left_failed failed first.stamped poll.stamped)
        rw [stamped]
        by_cases spent : ∃ poll ∈ rest, first.stamped + failedGrace ≤ poll.stamped
        · refine Or.inl ⟨⟨row, first, rest, rfl, failed, rfl, spent⟩, failureMessage row, ?_⟩
          refine pollAll_raises (fun poll polled => ?_) ?_
          · rw [later poll polled]
            split
            · exact Or.inr rfl
            · exact Or.inl rfl
          · obtain ⟨poll, polled, expired⟩ := spent
            exact ⟨poll, polled, by rw [later poll polled, if_pos expired]⟩
        · have patient : ¬ GraceSpent (some row) (first :: rest) := by
            rintro ⟨_, _, _, _, _, same, late⟩
            obtain ⟨rfl, rfl⟩ := List.cons.inj same
            exact spent late
          refine Or.inr ⟨patient, _, pollAll_fixed fun poll polled => ?_, ⟨rfl, by simp⟩⟩
          rw [later poll polled, if_neg fun expired => spent ⟨poll, polled, expired⟩]
      · obtain ⟨progress, baseline, opened, steady⟩ := observe_left failed
        rw [opened]
        refine Or.inr ⟨?_, progress, pollAll_fixed fun poll polled => ?_, ?_, by simp [baseline]⟩
        · rintro ⟨_, _, _, same, failedToo, _⟩
          exact failed (Option.some.inj same ▸ failedToo)
        · rw [pollOnce_prompt (promptRest poll polled), steady]
        · simpa using baseline

/-- While RUNNING is committed a follower only notes that it saw it, whatever its baseline. Without
a poll in between it notes nothing. -/
theorem polls_running (progress : Progress) {row : LeaderInitStatus}
    (prompt : Prompt deadline between)
    (running : row.state = .running) :
    ∃ reached, pollAll deadline (some row) (.waiting progress) between = .waiting reached ∧
      (between = [] → reached = progress) ∧ (between ≠ [] → reached.sawRunning = true) := by
  cases between with
  | nil => exact ⟨progress, rfl, fun _ => rfl, by simp⟩
  | cons first rest =>
    obtain ⟨promptFirst, promptRest⟩ := List.forall_mem_cons.mp prompt
    refine ⟨⟨some (progress.baseline.getD row.barrierTicket), true, none⟩, ?_, by simp, by simp⟩
    have opened : observe row first.stamped progress =
        .waiting ⟨some (progress.baseline.getD row.barrierTicket), true, none⟩ := by
      simp [observe, running]
    rw [pollAll, List.foldl_cons, pollOnce_prompt promptFirst, opened]
    apply pollAll_fixed
    intro poll polled
    rw [pollOnce_prompt (promptRest poll polled)]
    simp [observe, running]

/-- Once DONE is committed the first poll releases a follower that saw the cycle, by a ticket above
its baseline or by RUNNING. The others wait for the deadline, and the late poll raises. -/
theorem polls_done (progress : Progress) {row : LeaderInitStatus} {ticket : Int}
    (ticketed : row.barrierTicket = ticket) (done : row.state = .done)
    (prompt : Prompt deadline after) (polled : after ≠ []) {late : Poll}
    (expired : deadline < late.checked) :
    pollAll deadline (some row) (.waiting progress) (after ++ [late]) =
      if progress.baseline.getD ticket < ticket ∨ progress.sawRunning = true
      then .returned else .raised timedOut := by
  subst ticketed
  cases after with
  | nil => exact absurd rfl polled
  | cons first rest =>
    obtain ⟨promptFirst, promptRest⟩ := List.forall_mem_cons.mp prompt
    rw [List.cons_append, pollAll, List.foldl_cons, pollOnce_prompt promptFirst]
    by_cases seen : progress.baseline.getD row.barrierTicket < row.barrierTicket ∨
        progress.sawRunning = true
    · rw [if_pos seen, observe]
      simp only [done, seen, if_true]
      exact pollAll_returned
    · have stuck (stamped : Nat) (reached : Progress)
          (same : reached = { progress with
            baseline := some (progress.baseline.getD row.barrierTicket) }) :
          observe row stamped reached = .waiting reached := by
        subst same
        simp only [observe, done, Option.getD_some, seen, if_false]
      have opened : observe row first.stamped progress = .waiting
          { progress with baseline := some (progress.baseline.getD row.barrierTicket) } := by
        simp only [observe, done, seen, if_false]
      rw [opened, List.foldl_append, if_neg seen]
      have waits : pollAll deadline (some row) (.waiting
          { progress with baseline := some (progress.baseline.getD row.barrierTicket) }) rest =
          .waiting
            { progress with baseline := some (progress.baseline.getD row.barrierTicket) } := by
        apply pollAll_fixed
        intro poll member
        rw [pollOnce_prompt (promptRest poll member), stuck _ _ rfl]
      rw [pollAll] at waits
      rw [waits]
      simp only [List.foldl_cons, List.foldl_nil, pollOnce, expired, if_true]

/-- RUNNING bumps the ticket of the row, or starts at one where there is no row. -/
theorem running_ticket (leftover : Option LeaderInitStatus) (now : Nat) :
    (markLeaderInitRunning leftover now).barrierTicket =
      (leftover.map LeaderInitStatus.barrierTicket).getD 0 + 1 := by
  cases leftover <;> rfl

/-- What a follower brings to the DONE row releases it exactly if it saw the cycle: a baseline read
before RUNNING is below the bumped ticket, and a poll between the commits has seen RUNNING. -/
theorem released_iff_seen {leftover : Option LeaderInitStatus} {reached : Progress}
    (runningAt : Nat) (entered : Entered leftover before progress)
    (unpolled : between = [] → reached = progress)
    (saw : between ≠ [] → reached.sawRunning = true) :
    (reached.baseline.getD (markLeaderInitRunning leftover runningAt).barrierTicket <
        (markLeaderInitRunning leftover runningAt).barrierTicket ∨ reached.sawRunning = true) ↔
      CycleSeen leftover before between := by
  by_cases polledRunning : between = []
  · obtain rfl := unpolled polledRunning
    obtain ⟨baseline, anchored⟩ := entered
    by_cases polledLeft : leftover ≠ none ∧ before ≠ []
    · obtain ⟨row, rfl⟩ := Option.ne_none_iff_exists'.mp polledLeft.1
      have older : reached.baseline = some row.barrierTicket := by
        simpa [polledLeft.2] using baseline
      have below :
          row.barrierTicket < (markLeaderInitRunning (some row) runningAt).barrierTicket := by
        rw [running_ticket]
        exact Int.lt_succ row.barrierTicket
      simp only [older, Option.getD_some, below, true_or, CycleSeen, polledLeft,
        not_false_eq_true, ne_eq, and_self, or_true]
    · have unread : reached.baseline = none := by
        rw [baseline]
        split
        · rfl
        · simp_all
      have unseen : ¬ reached.sawRunning = true := fun seen => anchored seen unread
      simp [unread, unseen, CycleSeen, polledRunning, polledLeft]
  · simp only [saw polledRunning, CycleSeen, polledRunning, or_true, ne_eq, not_false_eq_true,
      true_or]

/-- One init cycle as a follower lives through it: its polls before RUNNING, between
the two commits, and after DONE up to the check that finds the deadline passed. -/
def cycleEvents (before between after : List Poll) (late : Poll) (runningAt doneAt : Nat) :
    List Event :=
  before.map Event.poll ++ .markRunning runningAt ::
    (between.map Event.poll ++ .markDone doneAt :: (after ++ [late]).map Event.poll)

/-- Where a whole cycle leaves the follower, as the three groups of polls over the three rows: the
one left by an earlier start, the RUNNING row and the DONE row. -/
theorem cycle_wait (leftover : Option LeaderInitStatus) (late : Poll) (runningAt doneAt : Nat) :
    (run (step deadline) (enter leftover)
      (cycleEvents before between after late runningAt doneAt)).wait =
      pollAll deadline
        (some (markLeaderInitDone (some (markLeaderInitRunning leftover runningAt)) doneAt))
        (pollAll deadline (some (markLeaderInitRunning leftover runningAt))
          (pollAll deadline leftover (.waiting .start) before) between) (after ++ [late]) := by
  simp only [cycleEvents, run_append, run_cons, run_polls, enter, step]

/-- In one undisturbed init cycle, a follower that polls at least once after DONE returns exactly if
one of its polls read a row before the DONE commit and it did not poll a row left FAILED for the
whole grace; otherwise it raises.

Proof: the polls are taken in their three groups. Those before RUNNING either raise on a spent
grace, and then nothing later matters, or leave the follower waiting with the left ticket as its
baseline if it has read one. Those between the commits add at most that RUNNING was seen, and the
first poll after DONE releases it exactly where one of the two tells it of the cycle. -/
theorem barrier_returns_iff (leftover : Option LeaderInitStatus)
    (before between after : List Poll) (late : Poll) (runningAt doneAt deadline : Nat)
    (prompt : Prompt deadline (before ++ between ++ after)) (polled : after ≠ [])
    (expired : deadline < late.checked) :
    ((run (step deadline) (enter leftover)
        (cycleEvents before between after late runningAt doneAt)).wait = .returned ↔
      CycleSeen leftover before between ∧ ¬ GraceSpent leftover before) ∧
    ((run (step deadline) (enter leftover)
        (cycleEvents before between after late runningAt doneAt)).wait = .returned ∨
      ∃ message, (run (step deadline) (enter leftover)
        (cycleEvents before between after late runningAt doneAt)).wait = .raised message) := by
  have promptBefore : Prompt deadline before := fun poll member => prompt poll (by simp [member])
  have promptBetween : Prompt deadline between := fun poll member => prompt poll (by simp [member])
  have promptAfter : Prompt deadline after := fun poll member => prompt poll (by simp [member])
  rw [cycle_wait]
  rcases polls_before_running promptBefore with
    ⟨spent, message, raised⟩ | ⟨patient, progress, waiting, entered⟩
  · rw [raised, pollAll_raised, pollAll_raised]
    exact ⟨by simp [spent], Or.inr ⟨message, rfl⟩⟩
  · have running : (markLeaderInitRunning leftover runningAt).state = .running := rfl
    have done : (markLeaderInitDone (some (markLeaderInitRunning leftover runningAt)) doneAt).state
        = .done := rfl
    have ticketed : (markLeaderInitDone (some (markLeaderInitRunning leftover runningAt))
        doneAt).barrierTicket = (markLeaderInitRunning leftover runningAt).barrierTicket := rfl
    obtain ⟨reached, ran, unpolled, saw⟩ := polls_running progress promptBetween running
    rw [waiting, ran, polls_done reached ticketed done promptAfter polled expired]
    have seen := released_iff_seen runningAt entered unpolled saw
    by_cases cycle : CycleSeen leftover before between
    · rw [if_pos (seen.mpr cycle)]
      exact ⟨by simp [cycle, patient], Or.inl rfl⟩
    · rw [if_neg (seen.not.mpr cycle)]
      exact ⟨by simp [cycle], Or.inr ⟨timedOut, rfl⟩⟩

/-- A follower that starts once the leader is done never returns: its first poll reads DONE and
takes it for the state of an earlier start. -/
theorem respawned_follower_raises :
    (run (step 60000000000) (enter none)
      (cycleEvents [] [] [⟨1000000000, 1000000000⟩, ⟨30000000000, 30000000000⟩]
        ⟨61000000000, 61000000000⟩ 0 0)).wait = .raised timedOut := by
  decide +kernel

/-- One poll of a row left by an earlier start is enough, since the bumped ticket is then above the
baseline. -/
theorem early_follower_returns :
    (run (step 60000000000)
      (enter (some { barrierTicket := 4, state := .done, errorMessage := none, updatedAt := 0 }))
      (cycleEvents [⟨1000000000, 1000000000⟩] [] [⟨30000000000, 30000000000⟩]
        ⟨61000000000, 61000000000⟩ 0 0)).wait = .returned := by
  apply (barrier_returns_iff _ _ _ _ _ 0 0 _ (by simp [Prompt]) (by simp) (by decide)).1.mpr
  exact ⟨Or.inr ⟨by simp, by simp⟩, by simp [GraceSpent]⟩

end Thaum.LeaderInit
