import Mathlib.Data.List.Basic

/-!
# Runs of a deterministic step under a guard

A system is a step function on states; a run applies a list of events in order.
Nondeterminism (clock readings, drawn values, remote answers, scheduling) is
carried by the events, so a statement about every event list is a statement
about every interleaving.

`Guarded` says that each event meets a condition in the state it is applied to,
and `Throughout` that a property holds in every state reached, the first and the
last included. The rules below carry step lemmas to runs once and for all: an
invariant kept by guarded steps holds at the end, a property it implies holds
throughout, what each step relates to the state before it is related over the run,
and where an unguarded step breaks the property at once the two are equivalent. The
last rule says when no event is accepted twice.
-/

namespace GuardedRuns

universe u v w
variable {σ : Type u} {ε : Type v}

/-- Apply the events in order. -/
def run (step : σ → ε → σ) : σ → List ε → σ
  | state, [] => state
  | state, event :: rest => run step (step state event) rest

/-- Every event meets the guard in the state it is applied to. -/
def Guarded (step : σ → ε → σ) (guard : σ → ε → Prop) : σ → List ε → Prop
  | _, [] => True
  | state, event :: rest => guard state event ∧ Guarded step guard (step state event) rest

/-- The property holds in every state the run reaches, its first and last included. -/
def Throughout (step : σ → ε → σ) (property : σ → Prop) : σ → List ε → Prop
  | state, [] => property state
  | state, event :: rest => property state ∧ Throughout step property (step state event) rest

/-- No two events of the run are both accepted, each in the state it is applied to. -/
def AcceptedOnce (step : σ → ε → σ) (accepts : σ → ε → Prop) (state : σ) (events : List ε) : Prop :=
  ∀ before first middle second after, events = before ++ first :: (middle ++ second :: after) →
    accepts (run step state before) first →
    ¬ accepts (run step state (before ++ first :: middle)) second

variable {step : σ → ε → σ} {guard other : σ → ε → Prop} {invariant property : σ → Prop}

@[simp] theorem run_nil (state : σ) : run step state [] = state := rfl

@[simp] theorem run_cons (state : σ) (event : ε) (rest : List ε) :
    run step state (event :: rest) = run step (step state event) rest := rfl

@[simp] theorem guarded_cons (state : σ) (event : ε) (rest : List ε) :
    Guarded step guard state (event :: rest) ↔
      guard state event ∧ Guarded step guard (step state event) rest := Iff.rfl

/-- A run over two lists of events is the run over the second from where the first ends, so what
holds at a point of a run is said of a run over its first part. -/
theorem run_append (state : σ) (before after : List ε) :
    run step state (before ++ after) = run step (run step state before) after := by
  induction before generalizing state with
  | nil => rfl
  | cons event rest inductionHypothesis => exact inductionHypothesis (step state event)

/-- A guarded run splits at every point: its first part is guarded from the start, and the rest from
the state that the first part reaches. -/
theorem guarded_append (state : σ) (before after : List ε) :
    Guarded step guard state (before ++ after) ↔
      Guarded step guard state before ∧ Guarded step guard (run step state before) after := by
  induction before generalizing state with
  | nil => simp [Guarded]
  | cons event rest inductionHypothesis =>
    simp only [List.cons_append, guarded_cons, run_cons, inductionHypothesis, and_assoc]

/-- A run is guarded if each event meets the guard after what stands before it. In this form the
guard of a run is a statement about its beginnings, which is how the conditions of the model are
spelled out. -/
theorem guarded_iff_prefixes (state : σ) (events : List ε) :
    Guarded step guard state events ↔
      ∀ before event after, events = before ++ event :: after →
        guard (run step state before) event := by
  induction events generalizing state with
  | nil =>
    constructor
    · intro _ before event after parts
      simp at parts
    · intro _
      trivial
  | cons first rest inductionHypothesis =>
    constructor
    · rintro ⟨now, later⟩ before event after parts
      cases before with
      | nil =>
        obtain ⟨rfl, rfl⟩ := List.cons_eq_cons.mp parts
        exact now
      | cons other before =>
        obtain ⟨rfl, rfl⟩ := List.cons_eq_cons.mp parts
        exact (inductionHypothesis _).mp later before event after rfl
    · intro each
      refine ⟨each [] first rest rfl, (inductionHypothesis _).mpr ?_⟩
      intro before event after parts
      exact each (first :: before) event after (by rw [parts, List.cons_append])

/-- A guard that always holds is met by every run. Rules for guarded runs are used with it where
nothing is asked of the events. -/
theorem guarded_of_forall (always : ∀ state event, guard state event) (state : σ)
    (events : List ε) : Guarded step guard state events := by
  induction events generalizing state with
  | nil => trivial
  | cons event rest inductionHypothesis =>
    exact ⟨always state event, inductionHypothesis (step state event)⟩

/-- A guard on the events alone is met where every event meets it, whatever the states are. -/
theorem guarded_of_mem {admitted : ε → Prop} (state : σ) (events : List ε)
    (all : ∀ event ∈ events, admitted event) :
    Guarded step (fun _ event => admitted event) state events := by
  induction events generalizing state with
  | nil => trivial
  | cons event rest inductionHypothesis =>
    obtain ⟨now, later⟩ := List.forall_mem_cons.mp all
    exact ⟨now, inductionHypothesis (step state event) later⟩

/-- A property holds throughout a run if it holds after each beginning of it, the empty one and the
whole run included. -/
theorem throughout_iff_prefixes (state : σ) (events : List ε) :
    Throughout step property state events ↔
      ∀ before after, events = before ++ after → property (run step state before) := by
  induction events generalizing state with
  | nil =>
    constructor
    · intro holds before after parts
      obtain ⟨rfl, rfl⟩ := List.append_eq_nil_iff.mp parts.symm
      exact holds
    · intro holds
      exact holds [] [] rfl
  | cons event rest inductionHypothesis =>
    constructor
    · rintro ⟨now, later⟩ before after parts
      cases before with
      | nil => exact now
      | cons first before =>
        obtain ⟨rfl, rfl⟩ := List.cons_eq_cons.mp parts
        exact (inductionHypothesis _).mp later before after rfl
    · intro holds
      refine ⟨holds [] _ rfl, (inductionHypothesis _).mpr ?_⟩
      intro before after parts
      exact holds (event :: before) after (by rw [parts, List.cons_append])

/-- A guard on what a projection shows is met where the projected run meets it. The projection has
to commute with the step; then parts of the state that the guard does not read may be forgotten. -/
theorem guarded_project {τ : Type w} {projected : τ → ε → τ} (condition : τ → ε → Prop)
    (project : σ → τ)
    (commutes : ∀ state event, project (step state event) = projected (project state) event)
    (state : σ) (events : List ε) :
    Guarded step (fun state => condition (project state)) state events ↔
      Guarded projected condition (project state) events := by
  induction events generalizing state with
  | nil => exact Iff.rfl
  | cons event rest inductionHypothesis =>
    rw [guarded_cons, guarded_cons, inductionHypothesis, commutes]

/-- An invariant that guarded steps keep holds at the end of a guarded run. The induction is on the
events, with the state left general. -/
theorem invariant_run
    (kept : ∀ state event, invariant state → guard state event → invariant (step state event))
    (state : σ) (events : List ε) (initially : invariant state)
    (met : Guarded step guard state events) : invariant (run step state events) := by
  induction events generalizing state with
  | nil => exact initially
  | cons event rest inductionHypothesis =>
    exact inductionHypothesis (step state event) (kept state event initially met.1) met.2

/-- What the invariant implies holds in every state of a guarded run. The property itself need not
be kept by steps, only the invariant. -/
theorem throughout_of_guarded
    (kept : ∀ state event, invariant state → guard state event → invariant (step state event))
    (implied : ∀ state, invariant state → property state)
    (state : σ) (events : List ε) (initially : invariant state)
    (met : Guarded step guard state events) : Throughout step property state events := by
  induction events generalizing state with
  | nil => exact implied state initially
  | cons event rest inductionHypothesis =>
    exact ⟨implied state initially,
      inductionHypothesis (step state event) (kept state event initially met.1) met.2⟩

/-- What each guarded step relates to the state before it is related over the run, if the relation
is reflexive and transitive. This carries frame conditions and monotone quantities from steps to
runs. -/
theorem related_run {related : σ → σ → Prop} (reflexive : ∀ state, related state state)
    (transitive : ∀ first second third, related first second → related second third →
      related first third)
    (kept : ∀ state event, invariant state → guard state event → invariant (step state event))
    (relates : ∀ state event, invariant state → guard state event →
      related state (step state event))
    (state : σ) (events : List ε) (initially : invariant state)
    (met : Guarded step guard state events) : related state (run step state events) := by
  induction events generalizing state with
  | nil => exact reflexive state
  | cons event rest inductionHypothesis =>
    have next := kept state event initially met.1
    have now := relates state event initially met.1
    exact transitive _ _ _ now (inductionHypothesis (step state event) next met.2)

/-- Where guarded steps keep an invariant that implies the property, and a step outside the guard
breaks the property at once, the property holds throughout exactly the guarded runs.

Proof: a guarded run has the invariant and with it the property in every state. The other way by
induction on the events: were the first one unguarded, the property would fail in the next state
already, and so the invariant goes on to the rest. -/
theorem throughout_iff_guarded
    (kept : ∀ state event, invariant state → guard state event → invariant (step state event))
    (implied : ∀ state, invariant state → property state)
    (broken : ∀ state event, invariant state → ¬ guard state event →
      ¬ property (step state event))
    (state : σ) (events : List ε) (initially : invariant state) :
    Throughout step property state events ↔ Guarded step guard state events := by
  constructor
  · intro holds
    induction events generalizing state with
    | nil => trivial
    | cons event rest inductionHypothesis =>
      have now : property (step state event) := by
        cases rest with
        | nil => exact holds.2
        | cons => exact holds.2.1
      have met : guard state event := by
        by_contra unmet
        exact broken state event initially unmet now
      exact ⟨met, inductionHypothesis (step state event) (kept state event initially met) holds.2⟩
  · exact throughout_of_guarded kept implied state events initially

/-- Where accepting an event starts a lasting invariant under which none is accepted, at most one
is. The invariant may depend on what was accepted.

Proof: split the run at the first of two accepted events. From there the lasting invariant holds up
to the second, by `invariant_run`, and blocks it. -/
theorem accepted_once {ι : Type w} {accepts : σ → ε → Prop} (lasting : ι → σ → Prop)
    (spends : ∀ state event, guard state event → accepts state event →
      ∃ spent, lasting spent (step state event))
    (stays : ∀ spent state event, lasting spent state → guard state event →
      lasting spent (step state event))
    (blocks : ∀ spent state event, lasting spent state → guard state event →
      ¬ accepts state event)
    (state : σ) (events : List ε) (met : Guarded step guard state events) :
    AcceptedOnce step accepts state events := by
  rintro before first middle second after rfl accepted
  obtain ⟨_, metFirst, metRest⟩ := (guarded_append state before _).mp met
  obtain ⟨metMiddle, metSecond, _⟩ := (guarded_append _ middle _).mp metRest
  obtain ⟨spent, started⟩ := spends _ first metFirst accepted
  have blocked :=
    blocks spent _ second (invariant_run (stays spent) _ middle started metMiddle) metSecond
  simpa [run_append] using blocked

end GuardedRuns
