import Thaum.Library.GuardedRuns
import Mathlib.Logic.Function.Basic

/-!
# Scripts of calls that run side by side

A script is a computation that calls out: it goes on with the answer of a call, or with
`none` where the call raises. A script whose result is an option raises with `none`.

Scripts run side by side one call at a time, in any order and with any answers. What the
log shows of one of them is a run of that script alone, so a law about the runs of a script
holds of every interleaving.
-/

namespace Scripts

open GuardedRuns

/-- A computation that makes calls; every call is answered or raises. -/
inductive Script (Call : Type) (Answer : Call → Type) (ρ : Type) : Type where
  | done : (result : ρ) → Script Call Answer ρ
  | call : (c : Call) → (next : Option (Answer c) → Script Call Answer ρ) → Script Call Answer ρ

variable {Call : Type} {Answer : Call → Type} {ρ σ : Type}

/-- A call with what it came to. -/
abbrev Event (Call : Type) (Answer : Call → Type) : Type := (c : Call) × Option (Answer c)

namespace Script

/-- Go on with the result. -/
def bind : Script Call Answer ρ → (ρ → Script Call Answer σ) → Script Call Answer σ
  | done result, next => next result
  | call c answered, next => call c fun answer => (answered answer).bind next

/-- A single call. -/
def perform (c : Call) : Script Call Answer (Option (Answer c)) := call c done

/-- Go on with the result, unless the script raises. -/
def andThen (first : Script Call Answer (Option ρ))
    (next : ρ → Script Call Answer (Option σ)) : Script Call Answer (Option σ) :=
  first.bind fun
    | none => done none
    | some result => next result

/-- The same script where the calls are among others. -/
def lift {Wider : Type} {Given : Wider → Type} (into : Call → Wider) :
    Script Call (fun c => Given (into c)) ρ → Script Wider Given ρ
  | done result => done result
  | call c next => call (into c) fun answer => (next answer).lift into

/-- Every call of the script is of a kind. -/
def KeepsTo (kind : Call → Prop) : Script Call Answer ρ → Prop
  | done _ => True
  | call c next => kind c ∧ ∀ answer, (next answer).KeepsTo kind

variable {kind : Call → Prop} {script : Script Call Answer ρ}

/-- A script keeps to a kind of calls if it does so before and after its result. -/
theorem KeepsTo.bind {next : ρ → Script Call Answer σ} (first : script.KeepsTo kind)
    (after : ∀ result, (next result).KeepsTo kind) : (script.bind next).KeepsTo kind := by
  induction script with
  | done result => exact after result
  | call c next inductionHypothesis =>
    exact ⟨first.1, fun answer => inductionHypothesis answer (first.2 answer)⟩

/-- So does one that may raise in between, as a script that raises makes no more calls. -/
theorem KeepsTo.andThen {script : Script Call Answer (Option ρ)}
    {next : ρ → Script Call Answer (Option σ)} (first : script.KeepsTo kind)
    (after : ∀ result, (next result).KeepsTo kind) : (script.andThen next).KeepsTo kind := by
  apply first.bind
  intro result
  cases result with
  | none => trivial
  | some result => exact after result

/-- A script that keeps to a kind of calls keeps to every wider kind. -/
theorem KeepsTo.mono {other : Call → Prop} (keeps : script.KeepsTo kind)
    (within : ∀ c, kind c → other c) : script.KeepsTo other := by
  induction script with
  | done => trivial
  | call c next inductionHypothesis =>
    exact ⟨within c keeps.1, fun answer => inductionHypothesis answer (keeps.2 answer)⟩

/-- A single call keeps to the kinds it is of. -/
theorem keepsTo_perform {c : Call} : (perform c : Script Call Answer _).KeepsTo kind ↔ kind c :=
  and_iff_left fun _ => trivial

end Script

/-- The script makes the calls, with the answers, and the rest of it is left. -/
inductive Runs : Script Call Answer ρ → List (Event Call Answer) → Script Call Answer ρ →
    Prop where
  | here (script : Script Call Answer ρ) : Runs script [] script
  | answered {c : Call} {next : Option (Answer c) → Script Call Answer ρ}
      {answer : Option (Answer c)} {events : List (Event Call Answer)} {rest : Script Call Answer ρ}
      (onwards : Runs (next answer) events rest) :
      Runs (.call c next) (⟨c, answer⟩ :: events) rest

section Runs

variable {c : Call} {script rest : Script Call Answer ρ} {events : List (Event Call Answer)}
  {next : Option (Answer c) → Script Call Answer ρ} {answer : Option (Answer c)} {result : ρ}
  {continuation : ρ → Script Call Answer σ}

/-- A script that has ended makes no more calls. -/
theorem runs_done : Runs (.done result) events rest ↔ events = [] ∧ rest = .done result := by
  constructor
  · rintro ⟨⟩
    exact ⟨rfl, rfl⟩
  · rintro ⟨rfl, rfl⟩
    exact .here _

/-- A script in front of a call has not made it, or goes on with the answer it was given. -/
theorem runs_call : Runs (.call c next) events rest ↔
    events = [] ∧ rest = .call c next ∨
      ∃ answer after, events = ⟨c, answer⟩ :: after ∧ Runs (next answer) after rest := by
  constructor
  · rintro (_ | onwards)
    · exact Or.inl ⟨rfl, rfl⟩
    · exact Or.inr ⟨_, _, rfl, onwards⟩
  · rintro (⟨rfl, rfl⟩ | ⟨answer, after, rfl, onwards⟩)
    · exact .here _
    · exact .answered onwards

/-- Runs one after the other are a run, from where the first begins to where the second ends. -/
theorem Runs.append {between : Script Call Answer ρ} {before after : List (Event Call Answer)}
    (first : Runs script before between) (second : Runs between after rest) :
    Runs script (before ++ after) rest := by
  induction first with
  | here => exact second
  | answered _ inductionHypothesis => exact .answered (inductionHypothesis second)

/-- A run can be cut at every point, with the rest of the script that is left there. -/
theorem runs_append {before after : List (Event Call Answer)} :
    Runs script (before ++ after) rest ↔
      ∃ between, Runs script before between ∧ Runs between after rest := by
  constructor
  · intro whole
    induction before generalizing script with
    | nil => exact ⟨script, .here _, whole⟩
    | cons event before inductionHypothesis =>
      cases whole with
      | answered onwards =>
        obtain ⟨between, first, second⟩ := inductionHypothesis onwards
        exact ⟨between, .answered first, second⟩
  · rintro ⟨between, first, second⟩
    exact first.append second

/-- At an event of a run its call was pending, and the run went on with its answer. What stood
before an event and what came after it are both runs. -/
theorem runs_at {before after : List (Event Call Answer)} :
    Runs script (before ++ ⟨c, answer⟩ :: after) rest ↔
      ∃ next, Runs script before (.call c next) ∧ Runs (next answer) after rest := by
  rw [runs_append]
  constructor
  · rintro ⟨between, first, second⟩
    cases second with
    | answered onwards => exact ⟨_, first, onwards⟩
  · rintro ⟨next, first, onwards⟩
    exact ⟨_, first, .answered onwards⟩

/-- A script that keeps to a kind of calls makes no others, and neither does what is left of it. -/
theorem Script.KeepsTo.runs {kind : Call → Prop} (keeps : script.KeepsTo kind)
    (isRun : Runs script events rest) :
    (∀ event ∈ events, kind event.1) ∧ rest.KeepsTo kind := by
  induction isRun with
  | here => exact ⟨by simp, keeps⟩
  | answered _ inductionHypothesis =>
    obtain ⟨all, left⟩ := inductionHypothesis (keeps.2 _)
    exact ⟨List.forall_mem_cons.mpr ⟨keeps.1, all⟩, left⟩

section Lift

variable {Wider : Type} {Given : Wider → Type} {into : Call → Wider}

/-- An event as it looks where the calls are among others. -/
def liftEvent (into : Call → Wider) (event : Event Call fun c => Given (into c)) :
    Event Wider Given := ⟨into event.1, event.2⟩

/-- A run of a script among other calls is a run of the script, event by event and with the same
answers. -/
theorem runs_lift {script : Script Call (fun c => Given (into c)) ρ}
    {events : List (Event Wider Given)} {rest : Script Wider Given ρ}
    (isRun : Runs (script.lift into) events rest) :
    ∃ plain left, events = plain.map (liftEvent into) ∧ rest = left.lift into ∧
      Runs script plain left := by
  induction events generalizing script with
  | nil =>
    generalize whole : script.lift into = lifted at isRun
    cases isRun with
    | here => exact ⟨[], script, rfl, whole.symm, .here _⟩
  | cons event events inductionHypothesis =>
    cases script with
    | done result => cases (runs_done.mp isRun).1
    | call c next =>
      rcases runs_call.mp isRun with ⟨impossible, _⟩ | ⟨answer, after, same, onwards⟩
      · cases impossible
      · obtain ⟨rfl, rfl⟩ := List.cons.inj same
        obtain ⟨plain, left, rfl, rfl, isPlain⟩ := inductionHypothesis onwards
        exact ⟨⟨c, answer⟩ :: plain, left, rfl, rfl, .answered isPlain⟩

/-- A pending call of a lifted script is one of the script. -/
theorem lift_call {script : Script Call (fun c => Given (into c)) ρ} {made : Wider}
    {later : Option (Given made) → Script Wider Given ρ}
    (pending : script.lift into = .call made later) : ∃ c next, script = .call c next ∧
      made = into c ∧ HEq later fun answer => (next answer).lift into := by
  cases script with
  | done result => cases pending
  | call c next =>
    obtain ⟨rfl, same⟩ := Script.call.inj pending
    exact ⟨c, next, rfl, rfl, same.symm⟩

end Lift

/-- A single call that is over. -/
theorem runs_perform_done {result : Option (Answer c)} :
    Runs (Script.perform c) events (.done result) ↔ events = [⟨c, result⟩] := by
  rw [Script.perform, runs_call]
  constructor
  · rintro (⟨_, impossible⟩ | ⟨answer, after, rfl, onwards⟩)
    · cases impossible
    · obtain ⟨rfl, same⟩ := runs_done.mp onwards
      rw [Script.done.inj same]
  · rintro rfl
    exact Or.inr ⟨result, [], rfl, .here _⟩

/-- A run of one script and then another is in the first, or has ended it. The induction is on the
first script. -/
theorem runs_bind {rest : Script Call Answer σ} :
    Runs (script.bind continuation) events rest →
      (∃ left, Runs script events left ∧ rest = left.bind continuation) ∨
        ∃ before after result, events = before ++ after ∧ Runs script before (.done result) ∧
          Runs (continuation result) after rest := by
  intro isRun
  induction events generalizing script with
  | nil =>
    generalize whole : script.bind continuation = composed at isRun
    cases isRun with
    | here => exact Or.inl ⟨script, .here _, whole.symm⟩
  | cons event events inductionHypothesis =>
    cases script with
    | done result => exact Or.inr ⟨[], _, result, rfl, .here _, isRun⟩
    | call c next =>
      rcases runs_call.mp isRun with ⟨impossible, _⟩ | ⟨answer, after, same, onwards⟩
      · cases impossible
      · obtain ⟨rfl, rfl⟩ := List.cons.inj same
        rcases inductionHypothesis onwards with ⟨left, isLeft, rfl⟩ |
          ⟨before, after, result, rfl, ended, onwards⟩
        · exact Or.inl ⟨left, .answered isLeft, rfl⟩
        · exact Or.inr ⟨⟨c, answer⟩ :: before, after, result, rfl, .answered ended, onwards⟩

/-- One script and then another have ended when both have. -/
theorem runs_bind_done {result : σ}
    (isRun : Runs (script.bind continuation) events (.done result)) :
    ∃ before after between, events = before ++ after ∧ Runs script before (.done between) ∧
      Runs (continuation between) after (.done result) := by
  rcases runs_bind isRun with ⟨left, isLeft, same⟩ | ended
  · cases left with
    | done between =>
      exact ⟨events, [], between, (List.append_nil _).symm, isLeft, same ▸ .here _⟩
    | call made next => cases same
  · exact ended

/-- A call that is not of the kind of the first script is made by the second, after the first has
ended. -/
theorem runs_bind_call {kind : Call → Prop} {later : Option (Answer c) → Script Call Answer σ}
    (keeps : script.KeepsTo kind) (other : ¬ kind c)
    (isRun : Runs (script.bind continuation) events (.call c later)) :
    ∃ before after result, events = before ++ after ∧ Runs script before (.done result) ∧
      Runs (continuation result) after (.call c later) := by
  rcases runs_bind isRun with ⟨left, isLeft, same⟩ | ended
  · cases left with
    | done result =>
      exact ⟨events, [], result, (List.append_nil _).symm, isLeft, same ▸ .here _⟩
    | call made next =>
      obtain ⟨rfl, _⟩ := Script.call.inj same
      exact absurd (keeps.runs isLeft).2.1 other
  · exact ended

/-- A call that is not of the kind of the second script is made by the first, and is followed by
what the first goes on with and then by calls of that kind.

Proof: a run is in the first script, or has ended it. Were the call made by the second one, it would
be of its kind; so the call is pending in the first, and what follows it splits again. -/
theorem runs_bind_within {kind : Call → Prop} {later : Option (Answer c) → Script Call Answer σ}
    (keeps : ∀ result, (continuation result).KeepsTo kind) (other : ¬ kind c)
    (isRun : Runs (script.bind continuation) events (.call c later)) :
    ∃ next, Runs script events (.call c next) ∧
      ∀ answer after rest, Runs (later answer) after rest →
        ∃ within beyond left, after = within ++ beyond ∧ Runs (next answer) within left ∧
          ∀ event ∈ beyond, kind event.1 := by
  rcases runs_bind isRun with ⟨left, isLeft, same⟩ | ⟨before, after, result, rfl, _, onwards⟩
  · cases left with
    | done result =>
      have pending := keeps result
      change Script.call c later = continuation result at same
      rw [← same] at pending
      exact absurd pending.1 other
    | call made next =>
      obtain ⟨rfl, sameNext⟩ := Script.call.inj same
      obtain rfl := eq_of_heq sameNext
      refine ⟨next, isLeft, ?_⟩
      intro answer after rest isAfter
      rcases runs_bind isAfter with ⟨left, isWithin, _⟩ |
        ⟨within, beyond, result, rfl, isWithin, onwards⟩
      · exact ⟨after, [], left, (List.append_nil _).symm, isWithin, by simp⟩
      · exact ⟨within, beyond, _, rfl, isWithin, ((keeps result).runs onwards).1⟩
  · exact absurd ((keeps result).runs onwards).2.1 other

/-- The same of a script that may raise in between, which then makes no calls at all behind. -/
theorem runs_andThen_within {script : Script Call Answer (Option ρ)}
    {continuation : ρ → Script Call Answer (Option σ)} {kind : Call → Prop}
    {later : Option (Answer c) → Script Call Answer (Option σ)}
    (keeps : ∀ result, (continuation result).KeepsTo kind) (other : ¬ kind c)
    (isRun : Runs (script.andThen continuation) events (.call c later)) :
    ∃ next, Runs script events (.call c next) ∧
      ∀ answer after rest, Runs (later answer) after rest →
        ∃ within beyond left, after = within ++ beyond ∧ Runs (next answer) within left ∧
          ∀ event ∈ beyond, kind event.1 := by
  apply runs_bind_within ?_ other isRun
  intro result
  cases result with
  | none => trivial
  | some result => exact keeps result

/-- A call that is not of the kind of the first script was made after the first ended with a
result. -/
theorem runs_andThen_call {script : Script Call Answer (Option ρ)}
    {continuation : ρ → Script Call Answer (Option σ)} {kind : Call → Prop}
    {later : Option (Answer c) → Script Call Answer (Option σ)}
    (keeps : script.KeepsTo kind) (other : ¬ kind c)
    (isRun : Runs (script.andThen continuation) events (.call c later)) :
    ∃ before after result, events = before ++ after ∧ Runs script before (.done (some result)) ∧
      Runs (continuation result) after (.call c later) := by
  obtain ⟨before, after, between, rfl, ended, onwards⟩ := runs_bind_call keeps other isRun
  cases between with
  | none => cases (runs_done.mp onwards).2
  | some result => exact ⟨before, after, result, rfl, ended, onwards⟩

/-- Where one script and then another have ended, the first raised or both have ended. In the first
case the other one made no call. -/
theorem runs_andThen_done {script : Script Call Answer (Option ρ)}
    {continuation : ρ → Script Call Answer (Option σ)} {result : Option σ}
    (isRun : Runs (script.andThen continuation) events (.done result)) :
    Runs script events (.done none) ∧ result = none ∨
      ∃ before after between, events = before ++ after ∧
        Runs script before (.done (some between)) ∧
        Runs (continuation between) after (.done result) := by
  obtain ⟨before, after, between, rfl, ended, onwards⟩ := runs_bind_done isRun
  cases between with
  | none =>
    obtain ⟨rfl, same⟩ := runs_done.mp onwards
    exact Or.inl ⟨by rwa [List.append_nil], Script.done.inj same⟩
  | some between => exact Or.inr ⟨before, after, between, rfl, ended, onwards⟩

/-- Where the script raises, a call of a kind raised. -/
def Blames (kind : Call → Prop) (script : Script Call Answer (Option ρ)) : Prop :=
  ∀ events, Runs script events (.done none) → ∃ event ∈ events, event.2 = none ∧ kind event.1

/-- A single call raises only as itself. -/
theorem blames_perform {kind : Call → Prop} (ofKind : kind c) :
    Blames kind (Script.perform c : Script Call Answer (Option (Answer c))) := by
  intro events isRun
  obtain rfl := runs_perform_done.mp isRun
  exact ⟨_, List.mem_singleton.mpr rfl, rfl, ofKind⟩

/-- Where neither part raises but for a call of the kind, the whole does not either. -/
theorem Blames.andThen {kind : Call → Prop} {script : Script Call Answer (Option ρ)}
    {continuation : ρ → Script Call Answer (Option σ)} (first : Blames kind script)
    (after : ∀ result, Blames kind (continuation result)) :
    Blames kind (script.andThen continuation) := by
  intro events isRun
  rcases runs_andThen_done isRun with ⟨raised, _⟩ | ⟨before, after', between, rfl, _, onwards⟩
  · exact first events raised
  · obtain ⟨event, listed, blamed⟩ := after between after' onwards
    exact ⟨event, List.mem_append_right _ listed, blamed⟩

end Runs

section SideBySide

variable {ι : Type} [DecidableEq ι]

/-- Scripts that run side by side, and the calls they have made. -/
structure Board (ι : Type) (Call : Type) (Answer : Call → Type) (ρ : Type) where
  tasks : ι → Script Call Answer ρ
  log : List (ι × Event Call Answer)

/-- The scheduler picks a script; what its call comes to is given for every call. -/
abbrev Turn (ι : Type) (Call : Type) (Answer : Call → Type) : Type :=
  ι × ((c : Call) → Option (Answer c))

/-- No script has made a call. -/
def start (tasks : ι → Script Call Answer ρ) : Board ι Call Answer ρ := { tasks, log := [] }

/-- The call of a script is made and answered. -/
def step (board : Board ι Call Answer ρ) (turn : Turn ι Call Answer) : Board ι Call Answer ρ :=
  match board.tasks turn.1 with
  | .done _ => board
  | .call c next =>
    { tasks := Function.update board.tasks turn.1 (next (turn.2 c))
      log := board.log ++ [(turn.1, ⟨c, turn.2 c⟩)] }

/-- A step of a script in front of a call answers it and logs both. -/
theorem step_call {board : Board ι Call Answer ρ} {turn : Turn ι Call Answer} {c : Call}
    {next : Option (Answer c) → Script Call Answer ρ}
    (pending : board.tasks turn.1 = .call c next) : step board turn =
      { tasks := Function.update board.tasks turn.1 (next (turn.2 c))
        log := board.log ++ [(turn.1, ⟨c, turn.2 c⟩)] } := by
  rw [step, pending]

/-- A step leaves the other scripts where they are. -/
theorem step_other {board : Board ι Call Answer ρ} {turn : Turn ι Call Answer} {i : ι}
    (other : turn.1 ≠ i) : (step board turn).tasks i = board.tasks i := by
  rw [step]
  split
  · rfl
  · exact Function.update_of_ne (Ne.symm other) _ _

/-- What a step adds to the log is the call of its script, if that has not ended. -/
theorem mem_step_log {board : Board ι Call Answer ρ} {turn : Turn ι Call Answer}
    {entry : ι × Event Call Answer} : entry ∈ (step board turn).log ↔ entry ∈ board.log ∨
      ∃ c next, board.tasks turn.1 = .call c next ∧ entry = (turn.1, ⟨c, turn.2 c⟩) := by
  cases pending : board.tasks turn.1 with
  | done result =>
    rw [step, pending]
    refine ⟨Or.inl, ?_⟩
    rintro (listed | ⟨c, next, impossible, _⟩)
    · exact listed
    · cases impossible
  | call c next =>
    rw [step_call pending, List.mem_append, List.mem_singleton]
    refine or_congr_right ⟨fun same => ⟨c, next, rfl, same⟩, ?_⟩
    rintro ⟨other, later, same, rfl⟩
    obtain ⟨rfl, _⟩ := Script.call.inj same
    rfl

/-- What a log shows of one script. -/
def eventsOf (i : ι) (log : List (ι × Event Call Answer)) : List (Event Call Answer) :=
  (log.filter fun entry => entry.1 = i).map Prod.snd

variable {i j : ι} {log before after : List (ι × Event Call Answer)}
  {event : Event Call Answer} {tasks : ι → Script Call Answer ρ}

@[simp] theorem eventsOf_nil : eventsOf i ([] : List (ι × Event Call Answer)) = [] := rfl

@[simp] theorem eventsOf_append : eventsOf i (before ++ after) =
    eventsOf i before ++ eventsOf i after := by
  simp [eventsOf]

/-- An entry of the script shows in its events. -/
theorem eventsOf_cons_self : eventsOf i ((i, event) :: log) = event :: eventsOf i log := by
  simp [eventsOf]

/-- An entry of another script does not. -/
theorem eventsOf_cons_other (other : j ≠ i) : eventsOf i ((j, event) :: log) = eventsOf i log := by
  simp [eventsOf, other]

/-- The events of a script are the entries of the log that are its own. -/
theorem mem_eventsOf : event ∈ eventsOf i log ↔ (i, event) ∈ log := by
  simp [eventsOf]

/-- The log shows runs of every script from where it began. -/
def Logged (tasks : ι → Script Call Answer ρ) (board : Board ι Call Answer ρ) : Prop :=
  ∀ i, Runs (tasks i) (eventsOf i board.log) (board.tasks i)

/-- At the start the log is empty, and every script is where it began. -/
theorem logged_start (tasks : ι → Script Call Answer ρ) : Logged tasks (start tasks) :=
  fun _ => .here _

/-- A step lets the run of one script grow by its call, and leaves those of the others as they
are. -/
theorem Logged.step {board : Board ι Call Answer ρ} (logged : Logged tasks board)
    (turn : Turn ι Call Answer) : Logged tasks (step board turn) := by
  intro i
  rw [Scripts.step]
  split
  · exact logged i
  · rename_i c next pending
    by_cases same : turn.1 = i
    · subst same
      have runs := logged turn.1
      rw [pending] at runs
      rw [eventsOf_append, eventsOf_cons_self, eventsOf_nil]
      simp only [Function.update_self]
      exact runs.append (.answered (.here _))
    · have unmoved := logged i
      rw [eventsOf_append, eventsOf_cons_other same, eventsOf_nil, List.append_nil]
      simpa only [Function.update_of_ne (Ne.symm same)] using unmoved

/-- In every interleaving the log shows runs of the scripts. By this rule and `logged_at` a law
about one script holds of it among all others. -/
theorem logged_run (tasks : ι → Script Call Answer ρ) (turns : List (Turn ι Call Answer)) :
    Logged tasks (run step (start tasks) turns) := by
  have kept : ∀ board turn, Logged tasks board → True → Logged tasks (step board turn) :=
    fun _ turn logged _ => logged.step turn
  exact invariant_run kept _ turns (logged_start tasks)
    (guarded_of_forall (fun _ _ => trivial) _ turns)

/-- Where a call stands in the log of an interleaving, its script was about to make it, and what the
log shows of the script behind it goes on from its answer. -/
theorem logged_at {board : Board ι Call Answer ρ} (logged : Logged tasks board) {c : Call}
    {answer : Option (Answer c)} (parts : board.log = before ++ (i, ⟨c, answer⟩) :: after) :
    ∃ next, Runs (tasks i) (eventsOf i before) (.call c next) ∧
      Runs (next answer) (eventsOf i after) (board.tasks i) := by
  have runs := logged i
  rw [parts, eventsOf_append, eventsOf_cons_self] at runs
  exact runs_at.mp runs

end SideBySide

end Scripts
