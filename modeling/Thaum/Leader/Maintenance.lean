import Mathlib.Algebra.Group.Basic
import Mathlib.Algebra.Order.Group.Int
import Thaum.Library.PyText

/-!
# The schedule of the maintenance tasks

At every tick of the leader `_run_due_tasks` goes through the registered tasks and runs
those that are due by the reading of the monotonic clock. It notes the reading for each task
that it ran, also where the task raised. A task without a note counts as run at zero, which
is any time: the origin of the clock is not that of the process.

Readings and intervals are exact numbers of one kind. What a task does is left out but for
whether it raises, as are the runs at startup, which are not noted.
-/

namespace Thaum.LeaderService

open PyText

variable {κ : Type}

/-- `LeaderTask`, without what the task does. -/
structure LeaderTask (κ : Type) where
  name : Text
  intervalSeconds : κ
deriving DecidableEq

/-- A tick: its reading of the clock, and which tasks raise at it. -/
structure Tick (κ : Type) where
  now : κ
  raises : Text → Bool

/-- `last_run`. -/
abbrev LastRun (κ : Type) := Text → Option κ

/-- The notes after a task has run at a reading. -/
def LastRun.note (lastRun : LastRun κ) (name : Text) (now : κ) : LastRun κ :=
  fun other => if other = name then some now else lastRun other

/-- A tick with the tasks that ran at it. -/
abbrev Entry (κ : Type) := Tick κ × List (Text × Bool)

/-- The names of the tasks that ran at a tick. -/
def ranNames (entry : Entry κ) : List Text := entry.2.map Prod.fst

/-- The reading of the last tick that ran the task. -/
def lastTick (entries : List (Entry κ)) (name : Text) : Option κ :=
  (entries.reverse.find? fun entry => (ranNames entry).contains name).map fun entry => entry.1.now

/-- The last tick that ran a task lies among the later entries, or else it is the first entry where
that one ran it. -/
theorem lastTick_cons (entry : Entry κ) (entries : List (Entry κ)) (name : Text) :
    lastTick (entry :: entries) name =
      (lastTick entries name).or (if name ∈ ranNames entry then some entry.1.now else none) := by
  rw [lastTick, List.reverse_cons, List.find?_append, Option.map_or, lastTick]
  by_cases ran : name ∈ ranNames entry
  · simp [ran]
  · simp [ran]

variable [AddGroup κ] [LinearOrder κ]

/-- `register_task`, `none` where it raises. -/
def registerTask (name : Text) (intervalSeconds : κ) (tasks : List (LeaderTask κ)) :
    Option (List (LeaderTask κ)) :=
  if intervalSeconds ≤ 0 then none else some (tasks ++ [⟨name, intervalSeconds⟩])

/-- `register_builtin_tasks`. -/
def registerBuiltinTasks (seconds : Nat → κ) (tasks : List (LeaderTask κ)) :
    Option (List (LeaderTask κ)) :=
  (registerTask "admin_log_nonce_gc".toList (seconds 3600) tasks).bind fun tasks =>
    (registerTask "thaum_dek_rotation".toList (seconds 3600) tasks).bind fun tasks =>
      registerTask "thaum_encrypted_field_catchup".toList (seconds 300) tasks

/-- `_run_due_tasks`: the tasks it runs, each with whether it raised, and its notes. -/
def runDueTasks (tick : Tick κ) :
    List (LeaderTask κ) → LastRun κ → List (Text × Bool) × LastRun κ
  | [], lastRun => ([], lastRun)
  | task :: tasks, lastRun =>
    let prev := (lastRun task.name).getD 0
    if tick.now - prev < task.intervalSeconds then runDueTasks tick tasks lastRun
    else
      -- the exception of a task is logged, and the run noted all the same
      let later := runDueTasks tick tasks (lastRun.note task.name tick.now)
      ((task.name, tick.raises task.name) :: later.1, later.2)

/-- The ticks of the leader loop and what they run. -/
def leaderLoop (tasks : List (LeaderTask κ)) : LastRun κ → List (Tick κ) → List (Entry κ)
  | _, [] => []
  | lastRun, tick :: ticks =>
    let done := runDueTasks tick tasks lastRun
    (tick, done.1) :: leaderLoop tasks done.2 ticks

/-- A tick runs a task exactly where none has yet, or its interval has passed since the last
one that has, and whichever tasks raise, the same tasks run. -/
structure OnSchedule (tasks : List (LeaderTask κ)) (ticks : List (Tick κ)) : Prop where
  due : ∀ earlier entry later,
    leaderLoop tasks (fun _ => none) ticks = earlier ++ entry :: later → ∀ task ∈ tasks,
      task.name ∈ ranNames entry ↔ lastTick earlier task.name = none ∨
        ∃ prev, lastTick earlier task.name = some prev ∧
          task.intervalSeconds ≤ entry.1.now - prev
  isolated : ∀ others : List (Tick κ), others.map Tick.now = ticks.map Tick.now →
    (leaderLoop tasks (fun _ => none) others).map ranNames =
      (leaderLoop tasks (fun _ => none) ticks).map ranNames

variable {tasks : List (LeaderTask κ)} {ticks : List (Tick κ)} {tick other : Tick κ}
  {lastRun : LastRun κ} {task : LeaderTask κ} {name : Text}

section Ticks

/-- Only registered tasks run at a tick, so the names that ran are names of the task list. -/
theorem runDueTasks_registered (ran : name ∈ ranNames (tick, (runDueTasks tick tasks lastRun).1)) :
    name ∈ tasks.map LeaderTask.name := by
  induction tasks generalizing lastRun with
  | nil => exact ran
  | cons first rest inductionHypothesis =>
    rw [runDueTasks] at ran
    dsimp only at ran
    split at ran
    · exact List.mem_cons_of_mem _ (inductionHypothesis ran)
    · rcases List.mem_cons.mp ran with rfl | later
      · exact List.mem_cons_self
      · exact List.mem_cons_of_mem _ (inductionHypothesis later)

/-- A tick notes its reading for the tasks that it runs, and no other. Whether a task raised does
not matter, as the note is made after the `except`. -/
theorem runDueTasks_notes (name : Text) : (runDueTasks tick tasks lastRun).2 name =
    if name ∈ ranNames (tick, (runDueTasks tick tasks lastRun).1) then some tick.now
    else lastRun name := by
  induction tasks generalizing lastRun with
  | nil => rfl
  | cons first rest inductionHypothesis =>
    rw [runDueTasks]
    dsimp only
    split
    · exact inductionHypothesis
    · rw [inductionHypothesis]
      by_cases own : name = first.name
      · simp [ranNames, own, LastRun.note]
      · simp [ranNames, own, LastRun.note]

/-- A task runs at a tick where the time since its note, or since zero, is not less than its
interval. Distinct names keep the notes of one task from hiding another in the same pass. -/
theorem runDueTasks_ran (distinct : (tasks.map LeaderTask.name).Nodup) (listed : task ∈ tasks) :
    task.name ∈ ranNames (tick, (runDueTasks tick tasks lastRun).1) ↔
      task.intervalSeconds ≤ tick.now - (lastRun task.name).getD 0 := by
  induction tasks generalizing lastRun with
  | nil => cases listed
  | cons first rest inductionHypothesis =>
    obtain ⟨fresh, others⟩ := List.nodup_cons.mp distinct
    rw [runDueTasks]
    dsimp only
    rcases List.mem_cons.mp listed with rfl | behind
    · split
      · rename_i early
        refine iff_of_false ?_ (not_le.mpr early)
        exact fun ran => fresh (runDueTasks_registered ran)
      · rename_i due
        exact iff_of_true List.mem_cons_self (not_lt.mp due)
    · have apart : task.name ≠ first.name := by
        intro same
        exact fresh (same ▸ List.mem_map_of_mem behind)
      split
      · exact inductionHypothesis others behind
      · have noted := @inductionHypothesis (lastRun.note first.name tick.now) others behind
        rw [LastRun.note, if_neg apart] at noted
        rw [← noted]
        simp [ranNames, apart]

/-- Whichever tasks raise, the same tasks run and the same notes are made. A raising task is logged
and the loop goes on to the next. -/
theorem runDueTasks_isolated (same : other.now = tick.now) :
    ranNames (other, (runDueTasks other tasks lastRun).1) =
        ranNames (tick, (runDueTasks tick tasks lastRun).1) ∧
      (runDueTasks other tasks lastRun).2 = (runDueTasks tick tasks lastRun).2 := by
  induction tasks generalizing lastRun with
  | nil => exact ⟨rfl, rfl⟩
  | cons first rest inductionHypothesis =>
    rw [runDueTasks, runDueTasks, same]
    dsimp only
    split
    · exact inductionHypothesis
    · obtain ⟨names, notes⟩ := @inductionHypothesis (lastRun.note first.name tick.now)
      exact ⟨congrArg (first.name :: ·) names, notes⟩

end Ticks

section Loops

/-- Over all ticks the tasks that run do not depend on which of them raise. The induction is on the
ticks, with the notes carried from one to the next. -/
theorem leaderLoop_isolated (others : List (Tick κ))
    (same : others.map Tick.now = ticks.map Tick.now) :
    (leaderLoop tasks lastRun others).map ranNames =
      (leaderLoop tasks lastRun ticks).map ranNames := by
  induction ticks generalizing others lastRun with
  | nil =>
    rw [List.map_eq_nil_iff.mp same]
  | cons tick ticks inductionHypothesis =>
    obtain ⟨other, others, rfl, here, later⟩ := List.map_eq_cons_iff.mp same
    obtain ⟨names, notes⟩ := @runDueTasks_isolated κ _ _ tasks tick other lastRun here
    rw [leaderLoop, leaderLoop, List.map_cons, List.map_cons, names, notes,
      inductionHypothesis others later]

/-- The tasks of a tick are decided by the last ticks before it that ran them: the notes at that
tick are what the earlier entries show, over those the loop started with. -/
theorem leaderLoop_entry {earlier later : List (Entry κ)} {entry : Entry κ}
    (parts : leaderLoop tasks lastRun ticks = earlier ++ entry :: later) :
    entry.2 = (runDueTasks entry.1 tasks fun name =>
      (lastTick earlier name).or (lastRun name)).1 := by
  induction earlier generalizing ticks lastRun with
  | nil =>
    cases ticks with
    | nil => cases parts
    | cons tick ticks =>
      obtain ⟨rfl, -⟩ := List.cons.inj parts
      rfl
  | cons first earlier inductionHypothesis =>
    cases ticks with
    | nil => cases parts
    | cons tick ticks =>
      obtain ⟨rfl, rest⟩ := List.cons.inj parts
      rw [inductionHypothesis rest]
      congr 2
      funext name
      rw [lastTick_cons, Option.or_assoc, runDueTasks_notes]
      by_cases ran : name ∈ ranNames (tick, (runDueTasks tick tasks lastRun).1)
      · simp [ran]
      · simp [ran]

/-- A task runs at a tick if its interval is over since the last tick that ran it, where a task that
did not run counts from zero. -/
theorem leaderLoop_ran {earlier later : List (Entry κ)} {entry : Entry κ} {task : LeaderTask κ}
    (parts : leaderLoop tasks (fun _ => none) ticks = earlier ++ entry :: later)
    (distinct : (tasks.map LeaderTask.name).Nodup) (listed : task ∈ tasks) :
    task.name ∈ ranNames entry ↔
      task.intervalSeconds ≤ entry.1.now - (lastTick earlier task.name).getD 0 := by
  have runs := @runDueTasks_ran κ _ _ tasks entry.1 (fun name => (lastTick earlier name).or none)
    task distinct listed
  rw [← leaderLoop_entry parts, Option.or_none] at runs
  exact runs

/-- At the first tick a task runs if the reading is not earlier than its interval. The clock counts
from boot, so this asks how long the machine has been up. -/
theorem leaderLoop_ran_first {entry : Entry κ} {later : List (Entry κ)} {task : LeaderTask κ}
    (parts : leaderLoop tasks (fun _ => none) ticks = entry :: later)
    (distinct : (tasks.map LeaderTask.name).Nodup) (listed : task ∈ tasks) :
    task.name ∈ ranNames entry ↔ task.intervalSeconds ≤ entry.1.now := by
  have split : leaderLoop tasks (fun _ => none) ticks = [] ++ entry :: later := parts
  rw [leaderLoop_ran split distinct listed, lastTick, List.reverse_nil, List.find?_nil,
    Option.map_none, Option.getD_none, sub_zero]

end Loops

/-- The tasks run on schedule exactly where the first tick is not earlier than the interval of any
task.

Proof: on schedule, every task runs at the first tick, and it does so only where the reading has
reached its interval. Conversely, where the first tick is late enough, every task runs at it. From
then on each task has a note, so a later tick runs it exactly where its interval has passed
since. -/
theorem on_schedule_iff (tasks : List (LeaderTask κ)) (ticks : List (Tick κ))
    (distinct : (tasks.map LeaderTask.name).Nodup) :
    OnSchedule tasks ticks ↔
      ∀ first ∈ ticks.head?, ∀ task ∈ tasks, task.intervalSeconds ≤ first.now := by
  constructor
  · intro scheduled first isFirst task listed
    cases ticks with
    | nil => cases isFirst
    | cons tick ticks =>
      obtain rfl := Option.some.inj isFirst
      have parts : leaderLoop tasks (fun _ => none) (tick :: ticks) = [] ++ _ :: _ := rfl
      have runs := (scheduled.due _ _ _ parts task listed).mpr (Or.inl rfl)
      exact (leaderLoop_ran_first parts distinct listed).mp runs
  · intro late
    refine ⟨?_, fun others => leaderLoop_isolated others⟩
    have atFirst {entry : Entry κ} {later : List (Entry κ)}
        (parts : leaderLoop tasks (fun _ => none) ticks = entry :: later)
        (task : LeaderTask κ) (listed : task ∈ tasks) : task.name ∈ ranNames entry := by
      rw [leaderLoop_ran_first parts distinct listed]
      cases ticks with
      | nil => cases parts
      | cons tick ticks =>
        obtain ⟨rfl, -⟩ := List.cons.inj parts
        exact late tick rfl task listed
    intro earlier entry later parts task listed
    cases noted : lastTick earlier task.name with
    | some prev =>
      rw [leaderLoop_ran parts distinct listed, noted]
      simp
    | none =>
      -- every task runs at the first tick, so this is the first one
      cases earlier with
      | nil => exact iff_of_true (atFirst parts task listed) (Or.inl rfl)
      | cons first earlier =>
        rw [lastTick_cons, if_pos (atFirst parts task listed)] at noted
        exact absurd noted (by simp)

section Example

/-- The tasks of the engine, by seconds. -/
def builtinTasks : List (LeaderTask Int) := (registerBuiltinTasks (fun n => (n : Int)) []).getD []

/-- Two minutes after boot the first tick runs none of the tasks of the engine, although none of
them has run before. -/
theorem first_tick_runs_nothing :
    (leaderLoop builtinTasks (fun _ => none) [⟨120, fun _ => false⟩]).map ranNames = [[]] ∧
      ¬ OnSchedule builtinTasks [⟨120, fun _ => false⟩] := by
  have idle : (leaderLoop builtinTasks (fun _ => none) [⟨120, fun _ => false⟩]).map ranNames =
      [[]] := by
    decide
  refine ⟨idle, ?_⟩
  intro scheduled
  have ran := (scheduled.due [] _ _ rfl ⟨"thaum_dek_rotation".toList, 3600⟩ (by decide)).mpr
    (Or.inl rfl)
  exact absurd ran (by decide)

/-- An hour after boot they run at the first tick, and one of them five minutes later,
although it raised. -/
theorem hour_old_on_schedule :
    (leaderLoop builtinTasks (fun _ => none)
        [⟨3600, fun _ => true⟩, ⟨3900, fun _ => false⟩]).map ranNames =
      [["admin_log_nonce_gc".toList, "thaum_dek_rotation".toList,
          "thaum_encrypted_field_catchup".toList], ["thaum_encrypted_field_catchup".toList]] ∧
      OnSchedule builtinTasks [⟨3600, fun _ => true⟩, ⟨3900, fun _ => false⟩] := by
  refine ⟨by decide, (on_schedule_iff builtinTasks _ (by decide)).mpr ?_⟩
  intro first isFirst
  obtain rfl := Option.some.inj isFirst
  decide

end Example

end Thaum.LeaderService
