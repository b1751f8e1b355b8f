import Thaum.Leader.StaleRelease
import Thaum.Vault.KeyBootstrap

/-!
# From the election to the wired crypto

A starting worker runs `run_leader_bootstrap_phase` and then `apply_database_crypto`. A
leader opens a cycle, runs `ensure_vault_key_rows` and the tasks of the plugins, and reports;
the others poll the barrier. Every worker then loads the active data key.

Any number of workers start, lead, fail and start again. The one thing asked of the runs is
that no leader reads the key slots while another is about to insert its own; then whoever
gets past the barrier finds the key rows, whichever cycle it was released by.
-/

namespace Thaum.LeaderInit

open PyText GuardedRuns Vault

/-- What a start that is given up has failed at. -/
inductive Failure where
  | barrier : (message : Text) → Failure
  | keyRows : (message : Text) → Failure
  | task : (message : Text) → Failure
  | crypto : Failure

/-- Where the start of a worker stands. -/
inductive Start (Context : Type) where
  | registered : Start Context
  | leading : Start Context
  | ensuring : EnsureRun → Start Context
  | tasks : (remaining : Nat) → Start Context
  | failing : Failure → (message : Text) → Start Context
  | following : (deadline : Nat) → Progress → Start Context
  | released : Start Context
  | ready : (wired : Option (Text × Context)) → Start Context
  | stopped : Failure → Start Context

/-- The barrier row, the key tables and the workers. -/
structure StartWorld (ι Params Wire Context : Type) where
  row : Option LeaderInitStatus
  tables : KeyTables Params Wire
  start : ι → Start Context

/-- The transactions, tasks and polls of a worker. Whether it leads is what the election
says at that time. -/
inductive StartEvent (ι : Type) where
  | elect (worker : ι) (leads : Bool) (deadline : Nat) : StartEvent ι
  | announce (worker : ι) (now : Nat) : StartEvent ι
  /-- A turn of `ensure_vault_key_rows`, with the text of the exception if it raises. -/
  | ensure (worker : ι) (message : Text) : StartEvent ι
  | task (worker : ι) (raised : Option Text) : StartEvent ι
  | report (worker : ι) (now : Nat) : StartEvent ι
  | poll (worker : ι) (poll : Poll) : StartEvent ι
  | apply (worker : ι) : StartEvent ι
  /-- The process ends, at whatever point, and a new one takes its place. -/
  | respawn (worker : ι) : StartEvent ι

section Model

variable {ι Params Kek Dek Wire Context : Type} [DecidableEq ι]
  (library : KeyLibrary Params Kek Dek Wire Context) (passphrase : Option Text)
  (pluginTasks : ι → Nat) (draws : ι → Nat → KeyDraw)

/-- The world with one worker moved. -/
def StartWorld.move (world : StartWorld ι Params Wire Context) (worker : ι)
    (start : Start Context) : StartWorld ι Params Wire Context :=
  { world with start := fun other => if other = worker then start else world.start other }

/-- The first of the tasks; `thaum_vault_key_rows` is registered with a passphrase only. -/
def firstTask (worker : ι) : Start Context :=
  match passphrase with
  | some _ => .ensuring (.reading 0)
  | none => .tasks (pluginTasks worker)

/-- What follows a turn of `ensure_vault_key_rows`. -/
def afterEnsure (worker : ι) (message : Text) : EnsureRun → Start Context
  | .returned => .tasks (pluginTasks worker)
  | .raised => .failing (.keyRows message) message
  | run => .ensuring run

/-- What follows a poll of the barrier. -/
def afterPoll (deadline : Nat) : Wait → Start Context
  | .waiting progress => .following deadline progress
  | .returned => .released
  | .raised message => .stopped (.barrier message)

/-- `apply_database_crypto`, which wires nothing without a passphrase. -/
def applyDatabaseCrypto (tables : KeyTables Params Wire) : Start Context :=
  match passphrase with
  | none => .ready none
  | some passphrase =>
    match wireContext library passphrase tables with
    | some wired => .ready (some wired)
    | none => .stopped .crypto

/-- An event of a worker, where its start has come to it. -/
def startStep (world : StartWorld ι Params Wire Context) :
    StartEvent ι → StartWorld ι Params Wire Context
  | .elect worker leads deadline =>
    match world.start worker with
    | .registered =>
      world.move worker (if leads then .leading else .following deadline .start)
    | _ => world
  | .announce worker now =>
    match world.start worker with
    | .leading =>
      { world.move worker (firstTask passphrase pluginTasks worker) with
        row := some (markLeaderInitRunning world.row now) }
    | _ => world
  | .ensure worker message =>
    match passphrase, world.start worker with
    | some passphrase, .ensuring run =>
      let after := run.advance library passphrase (draws worker) world.tables
      { world.move worker (afterEnsure pluginTasks worker message after.2) with
        tables := after.1 }
    | _, _ => world
  | .task worker raised =>
    match world.start worker, raised with
    | .tasks (remaining + 1), none => world.move worker (.tasks remaining)
    | .tasks (_ + 1), some message => world.move worker (.failing (.task message) message)
    | _, _ => world
  | .report worker now =>
    match world.start worker with
    | .tasks 0 =>
      { world.move worker .released with row := some (markLeaderInitDone world.row now) }
    | .failing failure message =>
      { world.move worker (.stopped failure) with
        row := some (markLeaderInitFailed world.row message now) }
    | _ => world
  | .poll worker poll =>
    match world.start worker with
    | .following deadline progress =>
      world.move worker (afterPoll deadline (pollOnce deadline world.row poll (.waiting progress)))
    | _ => world
  | .apply worker =>
    match world.start worker with
    | .released => world.move worker (applyDatabaseCrypto library passphrase world.tables)
    | _ => world
  | .respawn worker => world.move worker .registered

/-- Workers that start over the row and the key tables that an earlier start left. -/
def StartWorld.enter (leftover : Option LeaderInitStatus) (tables : KeyTables Params Wire) :
    StartWorld ι Params Wire Context where
  row := leftover
  tables := tables
  start _ := .registered

/-- The worker is about to read the key slots as the leader. -/
def Start.Reading : Start Context → Prop
  | .ensuring (.reading _) => True
  | _ => False

/-- The worker found the slots empty and is about to insert its own keys. -/
def Start.Inserting : Start Context → Prop
  | .ensuring (.inserting _) => True
  | _ => False

/-- No leader finds the key slots empty while another is about to insert its own. -/
def Unraced (world : StartWorld ι Params Wire Context) : StartEvent ι → Prop
  | .ensure worker _ => (world.start worker).Reading → world.tables.slots = [] →
      ∀ other, ¬ (world.start other).Inserting
  | _ => True

/-- The tables have no key rows yet, or all that is needed. -/
def Prepared (passphrase : Text) (tables : KeyTables Params Wire) : Prop :=
  tables.slots = [] ∧ tables.records = [] ∨ Bootstrapped library passphrase tables

/-- What the starts have come to: no worker fails at the key rows or at the crypto, who is
past the barrier finds the key rows, and who is ready has the active key loaded, which is
the same for all. -/
structure Wired (passphrase : Text) (world : StartWorld ι Params Wire Context) : Prop where
  keyRows : ∀ worker message text, world.start worker ≠ .failing (.keyRows message) text ∧
    world.start worker ≠ .stopped (.keyRows message)
  crypto : ∀ worker, world.start worker ≠ .stopped .crypto
  released : ∀ worker, world.start worker = .released →
    (wireContext library passphrase world.tables).isSome = true
  ready : ∀ worker wired, world.start worker = .ready wired →
    wired.isSome = true ∧ wired = wireContext library passphrase world.tables
  agree : ∀ worker other wired second, world.start worker = .ready wired →
    world.start other = .ready second → wired = second

/-- The rows that the follower has read do not release it. -/
def Uninformed (row : Option LeaderInitStatus) (progress : Progress) : Prop :=
  progress.baseline = none ∧ progress.sawRunning = false ∨
    ∃ baseline found, progress.baseline = some baseline ∧ row = some found ∧
      Withheld baseline progress.sawRunning found

/-- Where a start can stand over that row and those tables. -/
def Start.Fits (passphrase : Text) (row : Option LeaderInitStatus)
    (tables : KeyTables Params Wire) : Start Context → Prop
  | .ensuring (.inserting _) => tables.slots = []
  | .ensuring .checkingSlot | .ensuring .checkingRecord => Bootstrapped library passphrase tables
  | .ensuring .returned | .ensuring .raised => False
  | .tasks _ | .released => Bootstrapped library passphrase tables
  | .failing (.keyRows _) _ | .stopped (.keyRows _) => False
  | .failing .crypto _ | .stopped .crypto => False
  | .following _ progress => Bootstrapped library passphrase tables ∨ Uninformed row progress
  | .ready wired => Bootstrapped library passphrase tables ∧ wired.isSome = true ∧
      wired = wireContext library passphrase tables
  | _ => True

/-- The invariant. -/
structure Ordered (passphrase : Text) (world : StartWorld ι Params Wire Context) : Prop where
  prepared : Prepared library passphrase world.tables
  fits : ∀ worker, (world.start worker).Fits library passphrase world.row world.tables
  alone : ∀ worker other, (world.start worker).Inserting → (world.start other).Inserting →
    worker = other

end Model

variable {ι Params Kek Dek Wire Context : Type}
  {library : KeyLibrary Params Kek Dek Wire Context} {passphrase : Text}
  {pluginTasks : ι → Nat} {draws : ι → Nat → KeyDraw} {row after : Option LeaderInitStatus}
  {tables later : KeyTables Params Wire} {start : Start Context} {progress : Progress}

section Fits

/-- A start fits another row that tells the followers no more than the row before. -/
theorem Start.Fits.reread (fits : start.Fits library passphrase row tables)
    (informed : ∀ progress, Uninformed row progress → Uninformed after progress) :
    start.Fits library passphrase after tables := by
  cases start with
  | following deadline progress => exact fits.imp_right (informed progress)
  | ensuring run => cases run <;> exact fits
  | failing failure message => cases failure <;> exact fits
  | stopped failure => cases failure <;> exact fits
  | _ => exact fits

/-- With the key rows stored no row of the barrier matters: whoever is released finds the keys. -/
theorem Start.Fits.of_bootstrapped (fits : start.Fits library passphrase row tables)
    (bootstrapped : Bootstrapped library passphrase tables) (after : Option LeaderInitStatus) :
    start.Fits library passphrase after tables := by
  cases start with
  | following deadline progress => exact Or.inl bootstrapped
  | ensuring run => cases run <;> exact fits
  | failing failure message => cases failure <;> exact fits
  | stopped failure => cases failure <;> exact fits
  | _ => exact fits

/-- Tables without key slots are not bootstrapped. -/
theorem not_bootstrapped (empty : tables.slots = []) :
    ¬ Bootstrapped library passphrase tables := by
  rintro ⟨⟨slot, stored⟩, _, _⟩
  rw [empty] at stored
  exact nomatch stored

/-- Another start may stand where it stands when the key rows are inserted, as it is not about to
insert keys of its own. -/
theorem Start.Fits.inserted (fits : start.Fits library passphrase row tables)
    (empty : tables.slots = []) (other : ¬ start.Inserting)
    (bootstrapped : Bootstrapped library passphrase later) :
    start.Fits library passphrase row later := by
  have unprepared := @not_bootstrapped _ _ _ _ _ library passphrase tables empty
  cases start with
  | following deadline progress => exact Or.inl bootstrapped
  | ensuring run =>
    cases run with
    | inserting attempt => exact absurd trivial other
    | checkingSlot => exact absurd fits unprepared
    | checkingRecord => exact absurd fits unprepared
    | reading attempt => trivial
    | returned => exact fits
    | raised => exact fits
  | failing failure message => cases failure <;> exact fits
  | stopped failure => cases failure <;> exact fits
  | tasks remaining => exact absurd fits unprepared
  | released => exact absurd fits unprepared
  | ready wired => exact absurd fits.1 unprepared
  | registered => trivial
  | leading => trivial

/-- RUNNING releases no follower. -/
theorem Uninformed.running (uninformed : Uninformed row progress) (now : Nat) :
    Uninformed (some (markLeaderInitRunning row now)) progress := by
  rcases uninformed with unread | ⟨baseline, found, isBaseline, rfl, withheld⟩
  · exact Or.inl unread
  · exact Or.inr ⟨baseline, _, isBaseline, rfl, withheld.running now⟩

/-- FAILED releases no follower. -/
theorem Uninformed.failed (uninformed : Uninformed row progress) (message : Text) (now : Nat) :
    Uninformed (some (markLeaderInitFailed row message now)) progress := by
  rcases uninformed with unread | ⟨baseline, found, isBaseline, rfl, withheld⟩
  · exact Or.inl unread
  · exact Or.inr ⟨baseline, _, isBaseline, rfl, withheld.failed message now⟩

/-- A poll leaves an uninformed follower uninformed, or makes it raise. No such follower returns. -/
theorem Uninformed.poll (uninformed : Uninformed row progress) (deadline : Nat) (poll : Poll) :
    (∃ message, pollOnce deadline row poll (.waiting progress) = .raised message) ∨
      ∃ reached, pollOnce deadline row poll (.waiting progress) = .waiting reached ∧
        Uninformed row reached := by
  by_cases late : deadline < poll.checked
  · exact Or.inl ⟨timedOut, by simp only [pollOnce, late, if_true]⟩
  cases row with
  | none =>
    have waits : pollOnce deadline none poll (.waiting progress) = .waiting progress := by
      simp only [pollOnce, late, if_false]
    exact Or.inr ⟨progress, waits, uninformed⟩
  | some found =>
    have withheld : Withheld (progress.baseline.getD found.barrierTicket) progress.sawRunning
        found := by
      rcases uninformed with ⟨unread, unseen⟩ | ⟨baseline, second, isBaseline, same, withheld⟩
      · rw [unread, unseen]
        exact .first found
      · obtain rfl := Option.some.inj same
        rw [isBaseline]
        exact withheld
    rw [pollOnce_prompt (Nat.not_lt.mp late)]
    rcases withheld.observe rfl poll.stamped with raised | ⟨reached, waits, isBaseline, still⟩
    · exact Or.inl raised
    · exact Or.inr ⟨reached, waits, Or.inr ⟨_, found, isBaseline, rfl, still⟩⟩

end Fits

section Step

variable [DecidableEq ι] {world : StartWorld ι Params Wire Context} {worker : ι}

/-- The moved worker stands where it was moved. -/
theorem StartWorld.move_own : (world.move worker start).start worker = start := if_pos rfl

/-- The other workers stay where they stand. -/
theorem StartWorld.move_other {other : ι} (different : other ≠ worker) :
    (world.move worker start).start other = world.start other := if_neg different

/-- What is asked of a step that moves one worker: the tables stay prepared, that worker and all
others fit the row and tables it leaves, and nobody else inserts where it is about to. -/
theorem Ordered.moved (ordered : Ordered library passphrase world)
    (prepared : Prepared library passphrase later)
    (own : start.Fits library passphrase after later)
    (others : ∀ other, other ≠ worker →
      (world.start other).Fits library passphrase after later)
    (alone : start.Inserting → ∀ other, ¬ (world.start other).Inserting) :
    Ordered library passphrase
      { world.move worker start with row := after, tables := later } := by
  refine ⟨prepared, ?_, ?_⟩
  · intro other
    by_cases same : other = worker
    · subst same
      simpa only [StartWorld.move_own] using own
    · simpa only [StartWorld.move_other same] using others other same
  · intro first second firstInserts secondInserts
    by_cases isFirst : first = worker
    · by_cases isSecond : second = worker
      · exact isFirst.trans isSecond.symm
      · subst isFirst
        simp only [StartWorld.move_own] at firstInserts
        simp only [StartWorld.move_other isSecond] at secondInserts
        exact absurd secondInserts (alone firstInserts second)
    · simp only [StartWorld.move_other isFirst] at firstInserts
      by_cases isSecond : second = worker
      · subst isSecond
        simp only [StartWorld.move_own] at secondInserts
        exact absurd firstInserts (alone secondInserts first)
      · simp only [StartWorld.move_other isSecond] at secondInserts
        exact ordered.alone first second firstInserts secondInserts

/-- A step that moves one worker over the same row and tables asks something of that worker
alone. -/
theorem Ordered.only (ordered : Ordered library passphrase world)
    (own : start.Fits library passphrase world.row world.tables) (quiet : ¬ start.Inserting) :
    Ordered library passphrase (world.move worker start) :=
  ordered.moved ordered.prepared own (fun other _ => ordered.fits other)
    (fun inserts => absurd inserts quiet)

/-- A step that also writes a row which tells the followers nothing. The row is RUNNING or
FAILED. -/
theorem Ordered.writes (ordered : Ordered library passphrase world)
    (informed : ∀ progress, Uninformed world.row progress → Uninformed after progress)
    (own : start.Fits library passphrase after world.tables) (quiet : ¬ start.Inserting) :
    Ordered library passphrase { world.move worker start with row := after } :=
  ordered.moved ordered.prepared own (fun other _ => (ordered.fits other).reread informed)
    (fun inserts => absurd inserts quiet)

omit [DecidableEq ι] in
/-- A worker that turns to its first task fits any row and tables. -/
theorem firstTask_fits (worker : ι) :
    (firstTask (some passphrase) pluginTasks worker : Start Context).Fits library passphrase row
      tables := trivial

/-- A turn of `ensure_vault_key_rows`, one case for each place it can stand: the read of the slots,
the insertion after an empty read, and the end of the call. -/
theorem Ordered.ensure (lawful : library.Lawful) (ordered : Ordered library passphrase world)
    {run : EnsureRun} (stands : world.start worker = .ensuring run) (message : Text)
    (unraced : Unraced world (.ensure worker message)) :
    Ordered library passphrase
      { world.move worker (afterEnsure pluginTasks worker message
          (run.advance library passphrase (draws worker) world.tables).2) with
        tables := (run.advance library passphrase (draws worker) world.tables).1 } := by
  have fits := ordered.fits worker
  rw [stands] at fits
  cases run with
  | reading attempt =>
    rw [EnsureRun.advance]
    by_cases empty : world.tables.slots = []
    · rw [if_pos empty]
      have own : (Start.ensuring (.inserting attempt) : Start Context).Fits library passphrase
          world.row world.tables := empty
      apply ordered.moved ordered.prepared own (fun other _ => ordered.fits other)
      have reads : (world.start worker).Reading := by
        rw [stands]
        trivial
      exact fun _ => unraced reads empty
    · rw [if_neg empty]
      have stored := ordered.prepared.resolve_left fun unprepared => empty unprepared.1
      exact ordered.only stored (fun inserts => inserts)
  | inserting attempt =>
    have empty : world.tables.slots = [] := fits
    obtain ⟨_, noRecords⟩ := ordered.prepared.resolve_right (not_bootstrapped empty)
    have slotFresh : KeyedRows.get KdfSlot.keyId (draws worker attempt).wrapKeyId
        world.tables.slots = none := by
      rw [empty]
      rfl
    have recordFresh : KeyedRows.get KeyRecord.keyId (draws worker attempt).dekKeyId
        world.tables.records = none := by
      rw [noRecords]
      rfl
    obtain ⟨inserted, isInserted⟩ := insert_fresh library passphrase slotFresh recordFresh
    obtain ⟨slots, records⟩ := insert_adds isInserted
    rw [empty, List.nil_append] at slots
    rw [noRecords, List.map_nil, List.nil_append] at records
    have bootstrapped := OneInserted.bootstrapped lawful ⟨_, slots, records⟩
    rw [EnsureRun.advance, isInserted]
    have own : (Start.ensuring .checkingSlot : Start Context).Fits library passphrase world.row
        inserted := bootstrapped
    apply ordered.moved (Or.inr bootstrapped) own
    · intro other different
      apply (ordered.fits other).inserted empty _ bootstrapped
      intro inserts
      have ownInserts : (world.start worker).Inserting := by
        rw [stands]
        trivial
      exact different (ordered.alone other worker inserts ownInserts)
    · exact fun inserts => inserts.elim
  | checkingSlot =>
    obtain ⟨slot, only⟩ := Bootstrapped.slot fits
    have found : (singleKekSlot world.tables).isSome = true := by
      rw [singleKekSlot, only]
      rfl
    rw [EnsureRun.advance, if_pos found]
    exact ordered.only fits (fun inserts => inserts)
  | checkingRecord =>
    obtain ⟨record, only⟩ := Bootstrapped.record fits
    have found : activeDekRow world.tables = some (some record) := by
      rw [activeDekRow, only]
    rw [EnsureRun.advance, found]
    exact ordered.only fits (fun inserts => inserts)
  | returned => exact fits.elim
  | raised => exact fits.elim

/-- The step lemma, one case for each event of a worker. Only the report of DONE tells followers
anything, and the reporting leader has the key rows behind it. -/
theorem startStep_ordered (lawful : library.Lawful) (ordered : Ordered library passphrase world)
    (event : StartEvent ι) (unraced : Unraced world event) :
    Ordered library passphrase
      (startStep library (some passphrase) pluginTasks draws world event) := by
  cases event with
  | elect worker leads deadline =>
    cases stands : world.start worker with
    | registered =>
      simp only [startStep, stands]
      cases leads with
      | true => exact ordered.only trivial (fun inserts => inserts)
      | false => exact ordered.only (Or.inr (Or.inl ⟨rfl, rfl⟩)) (fun inserts => inserts)
    | _ => simpa only [startStep, stands] using ordered
  | announce worker now =>
    cases stands : world.start worker with
    | leading =>
      simp only [startStep, stands]
      exact ordered.writes (fun _ uninformed => uninformed.running now) (firstTask_fits worker)
        (fun inserts => inserts)
    | _ => simpa only [startStep, stands] using ordered
  | ensure worker message =>
    cases stands : world.start worker with
    | ensuring run =>
      simp only [startStep, stands]
      exact ordered.ensure lawful stands message unraced
    | _ => simpa only [startStep, stands] using ordered
  | task worker raised =>
    cases stands : world.start worker with
    | tasks remaining =>
      have fits := ordered.fits worker
      rw [stands] at fits
      cases remaining with
      | zero => simpa only [startStep, stands] using ordered
      | succ remaining =>
        cases raised with
        | none =>
          simp only [startStep, stands]
          exact ordered.only fits (fun inserts => inserts)
        | some message =>
          simp only [startStep, stands]
          exact ordered.only trivial (fun inserts => inserts)
    | _ => simpa only [startStep, stands] using ordered
  | report worker now =>
    have fits := ordered.fits worker
    cases stands : world.start worker with
    | tasks remaining =>
      rw [stands] at fits
      cases remaining with
      | zero =>
        -- whoever reports DONE has found the key rows, so the row tells no follower too much
        simp only [startStep, stands]
        exact ordered.moved ordered.prepared fits
          (fun other _ => (ordered.fits other).of_bootstrapped fits _)
          (fun inserts => inserts.elim)
      | succ remaining => simpa only [startStep, stands] using ordered
    | failing failure message =>
      rw [stands] at fits
      simp only [startStep, stands]
      apply ordered.writes (fun _ uninformed => uninformed.failed message now)
      · cases failure <;> exact fits
      · exact fun inserts => inserts
    | _ => simpa only [startStep, stands] using ordered
  | poll worker poll =>
    cases stands : world.start worker with
    | following deadline progress =>
      have fits := ordered.fits worker
      rw [stands] at fits
      simp only [startStep, stands]
      cases waits : pollOnce deadline world.row poll (.waiting progress) with
      | waiting reached =>
        refine ordered.only (fits.imp_right fun uninformed => ?_) (fun inserts => inserts)
        rcases uninformed.poll deadline poll with ⟨_, raised⟩ | ⟨other, same, still⟩
        · rw [waits] at raised
          exact nomatch raised
        · rw [waits] at same
          rwa [Wait.waiting.inj same]
      | returned =>
        refine ordered.only (fits.resolve_right fun uninformed => ?_) (fun inserts => inserts)
        rcases uninformed.poll deadline poll with ⟨_, raised⟩ | ⟨other, same, _⟩
        · rw [waits] at raised
          exact nomatch raised
        · rw [waits] at same
          exact nomatch same
      | raised message => exact ordered.only trivial (fun inserts => inserts)
    | _ => simpa only [startStep, stands] using ordered
  | apply worker =>
    cases stands : world.start worker with
    | released =>
      have bootstrapped := ordered.fits worker
      rw [stands] at bootstrapped
      obtain ⟨wired, isWired⟩ := Option.isSome_iff_exists.mp (Bootstrapped.wires bootstrapped)
      have applied : applyDatabaseCrypto library (some passphrase) world.tables =
          .ready (some wired) := by
        simp only [applyDatabaseCrypto, isWired]
      simp only [startStep, stands, applied]
      exact ordered.only ⟨bootstrapped, rfl, isWired.symm⟩ (fun inserts => inserts)
    | _ => simpa only [startStep, stands] using ordered
  | respawn worker => exact ordered.only trivial (fun inserts => inserts)

omit [DecidableEq ι] in
/-- The invariant gives what is wanted of each state. -/
theorem Ordered.wired (ordered : Ordered library passphrase world) :
    Wired library passphrase world := by
  have ready (worker : ι) (wired : Option (Text × Context))
      (stands : world.start worker = .ready wired) :
      wired.isSome = true ∧ wired = wireContext library passphrase world.tables := by
    have fits := ordered.fits worker
    rw [stands] at fits
    exact fits.2
  constructor
  · intro worker message text
    have fits := ordered.fits worker
    constructor
    · intro stands
      rw [stands] at fits
      exact fits
    · intro stands
      rw [stands] at fits
      exact fits
  · intro worker stands
    have fits := ordered.fits worker
    rw [stands] at fits
    exact fits
  · intro worker stands
    have fits := ordered.fits worker
    rw [stands] at fits
    exact Bootstrapped.wires fits
  · exact ready
  · intro worker other wired second first isSecond
    exact (ready worker wired first).2.trans (ready other second isSecond).2.symm

end Step

/-- Whoever gets past the barrier, released by whichever cycle, can wire the crypto, and all have
the same key loaded, as long as no leader reads the key slots while another inserts.

Proof: the invariant says that, while no key rows are stored, no row of the barrier releases a
waiting follower, so the first DONE is committed by a leader that has the key rows behind it. Every
event that meets the guard keeps it, and it gives the property at each state of the run. -/
theorem starts_wired [DecidableEq ι] (library : KeyLibrary Params Kek Dek Wire Context)
    (lawful : library.Lawful) (passphrase : Text) (pluginTasks : ι → Nat)
    (draws : ι → Nat → KeyDraw) (leftover : Option LeaderInitStatus)
    (tables : KeyTables Params Wire) (prepared : Prepared library passphrase tables)
    (events : List (StartEvent ι))
    (unraced : Guarded (startStep library (some passphrase) pluginTasks draws) Unraced
      (.enter leftover tables) events) :
    Throughout (startStep library (some passphrase) pluginTasks draws)
      (Wired library passphrase) (.enter leftover tables) events := by
  have initially : Ordered library passphrase
      (.enter leftover tables : StartWorld ι Params Wire Context) :=
    ⟨prepared, fun _ => trivial, fun _ _ inserts => inserts.elim⟩
  exact throughout_of_guarded
    (fun _ event ordered unraced => startStep_ordered lawful ordered event unraced)
    (fun _ ordered => ordered.wired) _ events initially unraced

section Example

/-- Whether a worker is about to insert is read off where it stands. -/
instance decidableInserting (start : Start Context) : Decidable start.Inserting :=
  match start with
  | .ensuring (.inserting _) => isTrue trivial
  | .ensuring (.reading _) | .ensuring .checkingSlot | .ensuring .checkingRecord
  | .ensuring .returned | .ensuring .raised | .registered | .leading | .tasks _
  | .failing _ _ | .following _ _ | .released | .ready _ | .stopped _ => isFalse id

/-- Tables without any key row. -/
def noKeys : KeyTables Unit (Text × Text) :=
  { slots := [], records := [], slotsKeyed := List.nodup_nil, recordsKeyed := List.nodup_nil }

/-- A leader stops at the task of a plugin while a follower waits that has read its row,
starts again and leads once more. -/
def secondCycle : List (StartEvent Bool) :=
  [.elect true true 0, .elect false false 60000000000, .announce true 0, .ensure true [],
    .ensure true [], .poll false ⟨1, 1⟩, .task true (some "no team".toList), .respawn true,
    .elect true true 0, .announce true 4, .ensure true [], .ensure true [], .ensure true [],
    .task true none, .report true 5, .poll false ⟨6, 6⟩, .apply false, .apply true]

/-- All along that run the property holds, although the follower is released by the second cycle. -/
theorem second_cycle_wired :
    Throughout (startStep plainLibrary (some "hush".toList) (fun _ => 1) twoDraws)
      (Wired plainLibrary "hush".toList) (.enter none noKeys) secondCycle := by
  apply starts_wired plainLibrary plainLibrary_lawful "hush".toList _ twoDraws none noKeys
    (Or.inl ⟨rfl, rfl⟩)
  have quiet (tables : KeyTables Unit (Text × Text)) (stored : tables.slots ≠ [])
      {condition : Prop} (empty : tables.slots = []) : condition := absurd empty stored
  refine ⟨trivial, trivial, trivial, fun _ _ => by decide, False.elim, trivial, trivial, trivial,
    trivial, trivial, fun _ => quiet _ (List.cons_ne_nil _ _), False.elim, False.elim, trivial,
    trivial, trivial, trivial, trivial, trivial⟩

/-- In the end both have the key of the first attempt loaded. -/
example : (run (startStep plainLibrary (some "hush".toList) (fun _ => 1) twoDraws)
    (.enter none noKeys) secondCycle).start false = .ready (some ("dek-2".toList, "hush".toList)) :=
  rfl

end Example

end Thaum.LeaderInit
