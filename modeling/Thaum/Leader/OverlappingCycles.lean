import Thaum.Leader.InitBarrier

/-!
# Init cycles that overlap

A worker that finds itself leader runs an init cycle: it commits RUNNING, runs the
registered tasks one after the other and commits DONE, or FAILED at the first task
that raises. No heartbeat is sent meanwhile, so the lease can expire and another
worker can start a cycle of its own before the first one ends.

The cycles are told apart by an index of any type, and each runs the tasks registered
in its process. Every order of their transactions and tasks is a list of events, with
the polls of one follower among them.
-/

namespace Thaum.LeaderInit

open PyText GuardedRuns

/-- Where a cycle of `run_leader_bootstrap_phase` stands. -/
inductive Phase where
  | elected : Phase
  | running : (remaining : Nat) → Phase
  | failing : (message : Text) → Phase
  | completed : Phase
  | abandoned : Phase
deriving DecidableEq

/-- All tasks of the cycle have run. -/
def Phase.Finished (phase : Phase) : Prop := phase = .running 0 ∨ phase = .completed

/-- The row with one follower, the cycles, and the one that bumped the ticket last. -/
structure Cycles (ι : Type) where
  startup : Startup
  phase : ι → Phase
  latest : Option ι

/-- The transaction that opens a cycle, the end of its next task, and the transaction
that reports it; a poll of the follower. -/
inductive CycleEvent (ι : Type) where
  | start : (cycle : ι) → (now : Nat) → CycleEvent ι
  | task : (cycle : ι) → (raised : Option Text) → CycleEvent ι
  | report : (cycle : ι) → (now : Nat) → CycleEvent ι
  | poll : Poll → CycleEvent ι

variable {ι : Type}

/-- The start of all workers, over the row an earlier start left. -/
def Cycles.enter (leftover : Option LeaderInitStatus) : Cycles ι :=
  { startup := LeaderInit.enter leftover, phase := fun _ => .elected, latest := none }

/-- The latest cycle has run its tasks if the row says DONE. -/
def Cycles.Truthful (state : Cycles ι) : Prop :=
  ∀ row ∈ state.startup.row, row.state = .done →
    ∀ cycle ∈ state.latest, (state.phase cycle).Finished

/-- A cycle that reports DONE is not followed by another whose tasks are yet to end. -/
def Unovertaken (state : Cycles ι) : CycleEvent ι → Prop
  | .report cycle _ => state.phase cycle = .running 0 →
      ∀ other ∈ state.latest, other ≠ cycle → (state.phase other).Finished
  | _ => True

/-- A poll releases the follower. -/
def Releases (deadline : Nat) (state : Cycles ι) (poll : Poll) : Prop :=
  state.startup.wait ≠ .returned ∧
    (LeaderInit.step deadline state.startup (.poll poll)).wait = .returned

variable {tasks : ι → Nat} {deadline : Nat} {state : Cycles ι} {cycle other : ι} {phase : Phase}

/-- The row of a state is truthful where it does not say DONE. This covers the commits of RUNNING
and FAILED. -/
theorem Cycles.Truthful.of_state {row : LeaderInitStatus} (stored : state.startup.row = some row)
    (undone : row.state ≠ .done) : state.Truthful := by
  intro second same done
  obtain rfl := Option.some.inj (stored.symm.trans same)
  exact absurd done undone

/-- A follower is released by a row that says DONE, since no other state makes a poll return. -/
theorem Releases.done {poll : Poll} (releases : Releases deadline state poll) :
    ∃ row, state.startup.row = some row ∧ row.state = .done := by
  obtain ⟨unreleased, returned⟩ := releases
  rw [LeaderInit.step] at returned
  cases waits : state.startup.wait with
  | returned => exact absurd waits unreleased
  | raised message => simp [waits, pollOnce] at returned
  | waiting progress =>
    by_cases late : deadline < poll.checked
    · simp [waits, pollOnce, late] at returned
    · cases found : state.startup.row with
      | none => simp [waits, pollOnce, late, found] at returned
      | some row =>
        refine ⟨row, rfl, ?_⟩
        simp only [waits, found, pollOnce_prompt (Nat.not_lt.mp late)] at returned
        cases isState : row.state with
        | done => rfl
        | idle => simp [observe, isState] at returned
        | running => simp [observe, isState] at returned
        | failed =>
          simp only [observe, isState] at returned
          split at returned
          · simp at returned
          · split at returned
            · simp at returned
            · split at returned <;> simp at returned

variable [DecidableEq ι]

/-- A cycle that moves on to another phase. -/
def Cycles.advance (state : Cycles ι) (cycle : ι) (phase : Phase) : Cycles ι :=
  { state with phase := fun other => if other = cycle then phase else state.phase other }

/-- `run_leader_bootstrap_phase` of each cycle, given the number of its tasks, and
`wait_for_leader_init_barrier` of the follower. -/
def Cycles.step (tasks : ι → Nat) (deadline : Nat) (state : Cycles ι) : CycleEvent ι → Cycles ι
  | .start cycle now =>
    match state.phase cycle with
    | .elected =>
      { state.advance cycle (.running (tasks cycle)) with
        startup := LeaderInit.step deadline state.startup (.markRunning now)
        latest := some cycle }
    | _ => state
  | .task cycle raised =>
    match state.phase cycle, raised with
    | .running (remaining + 1), none => state.advance cycle (.running remaining)
    | .running (_ + 1), some message => state.advance cycle (.failing message)
    | _, _ => state
  | .report cycle now =>
    match state.phase cycle with
    | .running 0 =>
      { state.advance cycle .completed with
        startup := LeaderInit.step deadline state.startup (.markDone now) }
    | .failing message =>
      { state.advance cycle .abandoned with
        startup := LeaderInit.step deadline state.startup (.markFailed message now) }
    | _ => state
  | .poll poll => { state with startup := LeaderInit.step deadline state.startup (.poll poll) }

/-- A cycle that goes on leaves the row and the follower as they are. -/
@[simp] theorem Cycles.advance_row (state : Cycles ι) (cycle : ι) (phase : Phase) :
    (state.advance cycle phase).startup = state.startup := rfl

/-- A cycle that goes on does not become the latest; only opening one does. -/
@[simp] theorem Cycles.advance_latest (state : Cycles ι) (cycle : ι) (phase : Phase) :
    (state.advance cycle phase).latest = state.latest := rfl

/-- The cycle that goes on stands at its new phase. -/
theorem Cycles.advance_own (state : Cycles ι) (cycle : ι) (phase : Phase) :
    (state.advance cycle phase).phase cycle = phase := if_pos rfl

/-- The other cycles stay where they stand. -/
theorem Cycles.advance_other (state : Cycles ι) (phase : Phase) (different : other ≠ cycle) :
    (state.advance cycle phase).phase other = state.phase other := if_neg different

/-- A cycle whose tasks were yet to end keeps the row truthful when it goes on: were the row DONE
and the cycle the latest, its tasks would have ended already. -/
theorem Cycles.Truthful.advance (truthful : state.Truthful)
    (unfinished : ¬ (state.phase cycle).Finished) (phase : Phase) :
    (state.advance cycle phase).Truthful := by
  intro row stored done latest isLatest
  have finished := truthful row stored done latest isLatest
  by_cases same : latest = cycle
  · subst same
    exact absurd finished unfinished
  · rw [advance_other state phase same]
    exact finished

/-- A cycle that reports DONE without being overtaken keeps the row truthful. Either it is itself
the latest cycle, whose tasks have run, or the latest has run its own. -/
theorem Cycles.Truthful.report (now : Nat) (finished : state.phase cycle = .running 0)
    (unovertaken : Unovertaken state (.report cycle now)) :
    (state.step tasks deadline (.report cycle now)).Truthful := by
  intro row stored done latest isLatest
  simp only [Cycles.step, finished] at isLatest ⊢
  by_cases same : latest = cycle
  · subst same
    rw [advance_own]
    exact Or.inr rfl
  · rw [advance_other state _ same]
    exact unovertaken finished latest isLatest same

/-- An event that meets the guard keeps the row truthful, by cases on the event. Only a report of
DONE needs the guard. -/
theorem Cycles.Truthful.step (truthful : state.Truthful) {event : CycleEvent ι}
    (unovertaken : Unovertaken state event) :
    (state.step tasks deadline event).Truthful := by
  cases event with
  | start cycle now =>
    cases phase : state.phase cycle with
    | elected =>
      have stored : (state.step tasks deadline (.start cycle now)).startup.row =
          some (markLeaderInitRunning state.startup.row now) := by
        simp only [Cycles.step, phase]
        rfl
      exact .of_state stored (by simp [markLeaderInitRunning])
    | _ => simpa only [Cycles.step, phase] using truthful
  | task cycle raised =>
    cases phase : state.phase cycle with
    | running remaining =>
      cases remaining with
      | zero => simpa only [Cycles.step, phase] using truthful
      | succ remaining =>
        have unfinished : ¬ (state.phase cycle).Finished := by simp [phase, Phase.Finished]
        cases raised with
        | none => simpa only [Cycles.step, phase] using truthful.advance unfinished _
        | some message => simpa only [Cycles.step, phase] using truthful.advance unfinished _
    | _ => simpa only [Cycles.step, phase] using truthful
  | report cycle now =>
    cases phase : state.phase cycle with
    | running remaining =>
      cases remaining with
      | zero => exact .report now phase unovertaken
      | succ remaining => simpa only [Cycles.step, phase] using truthful
    | failing message =>
      have stored : (state.step tasks deadline (.report cycle now)).startup.row =
          some (markLeaderInitFailed state.startup.row message now) := by
        simp only [Cycles.step, phase]
        rfl
      exact .of_state stored (by simp [markLeaderInitFailed])
    | _ => simpa only [Cycles.step, phase] using truthful
  | poll poll => exact truthful

/-- A DONE of an overtaken cycle makes the row untruthful, so the guard asks for no more than is
needed. -/
theorem overtaken_untruthful {event : CycleEvent ι} (overtaken : ¬ Unovertaken state event) :
    ¬ (state.step tasks deadline event).Truthful := by
  cases event with
  | report cycle now =>
    simp only [Unovertaken, not_forall] at overtaken
    obtain ⟨finished, other, isLatest, different, unfinished⟩ := overtaken
    intro truthful
    have stored : (state.step tasks deadline (.report cycle now)).startup.row =
        some (markLeaderInitDone state.startup.row now) := by
      simp only [Cycles.step, finished]
      rfl
    have latest : other ∈ (state.step tasks deadline (.report cycle now)).latest := by
      simp only [Cycles.step, finished]
      exact isLatest
    have reported := truthful _ stored rfl other latest
    simp only [Cycles.step, finished] at reported
    rw [Cycles.advance_other state _ different] at reported
    exact unfinished reported
  | start => exact absurd trivial overtaken
  | task => exact absurd trivial overtaken
  | poll => exact absurd trivial overtaken

/-- In every run of overlapping cycles the row says DONE only once the latest cycle has run its
tasks, exactly if no cycle reports DONE while a later one is yet to run its own; and then no poll
releases a follower before that.

Proof: truthfulness holds at the start, an event that meets the guard keeps it and one that does not
breaks it, so the rule for guarded runs gives the equivalence. A poll that releases a follower reads
DONE, and the row it reads is truthful by the run up to that poll. -/
theorem done_truthful_iff (tasks : ι → Nat) (deadline : Nat)
    (leftover : Option LeaderInitStatus) (events : List (CycleEvent ι)) :
    (Throughout (Cycles.step tasks deadline) Cycles.Truthful (.enter leftover) events ↔
      Guarded (Cycles.step tasks deadline) Unovertaken (.enter leftover) events) ∧
    (Guarded (Cycles.step tasks deadline) Unovertaken (.enter leftover) events →
      ∀ before poll after, events = before ++ .poll poll :: after →
        Releases deadline (run (Cycles.step tasks deadline) (.enter leftover) before) poll →
          ∀ cycle ∈ (run (Cycles.step tasks deadline) (.enter leftover) before).latest,
            Phase.Finished
              ((run (Cycles.step tasks deadline) (.enter leftover) before).phase cycle)) := by
  have initially : (Cycles.enter leftover : Cycles ι).Truthful := by
    intro row _ _ cycle isLatest
    simp [Cycles.enter] at isLatest
  have kept : ∀ (state : Cycles ι) event, state.Truthful → Unovertaken state event →
      (state.step tasks deadline event).Truthful := fun _ _ truthful met => truthful.step met
  constructor
  · exact throughout_iff_guarded kept (fun _ truthful => truthful)
      (fun _ _ _ unmet => overtaken_untruthful unmet) _ events initially
  · rintro met before poll after rfl releases cycle isLatest
    have metBefore := ((guarded_append _ before _).mp met).1
    have truthful := invariant_run kept _ before initially metBefore
    obtain ⟨row, stored, done⟩ := releases.done
    exact truthful row stored done cycle isLatest

section Example

/-- Two leaders with one task each: the second takes over while the first runs its task,
and the DONE of the first releases a follower although the second has not run its own. -/
def takeover : List (CycleEvent Bool) :=
  [.start true 0, .poll ⟨0, 0⟩, .start false 1, .task true none, .report true 2]

/-- The follower of that run returns while the second leader, whose cycle is the latest, has a task
to run. -/
theorem overtaken_cycle_releases :
    ((run (Cycles.step (fun _ => 1) 60000000000) (.enter none) takeover).startup.row.map
        LeaderInitStatus.state = some .done ∧
      (run (Cycles.step (fun _ => 1) 60000000000) (.enter none) takeover).latest = some false ∧
      (run (Cycles.step (fun _ => 1) 60000000000) (.enter none) takeover).phase false =
        .running 1) ∧
      (run (Cycles.step (fun _ => 1) 60000000000) (.enter none)
        (takeover ++ [.poll ⟨1, 1⟩])).startup.wait = .returned := by
  decide

/-- Where the second leader has run its task by then, the row is truthful all along, although the
first cycle reports after it was overtaken. -/
theorem finished_takeover_truthful :
    Throughout (Cycles.step (fun _ => 1) 60000000000) Cycles.Truthful (.enter none)
      [.start true 0, .start false 1, .task false none, .task true none, .report true 2,
        .report false 3] := by
  apply (done_truthful_iff _ _ _ _).1.mpr
  simp [Unovertaken, Cycles.step, Cycles.enter, Cycles.advance, Phase.Finished, Guarded]

end Example

end Thaum.LeaderInit
