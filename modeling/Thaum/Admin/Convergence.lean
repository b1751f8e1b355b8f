import Thaum.Admin.LogLevel
import Thaum.Library.GuardedRuns

/-!
# The log level of the workers

A POST commits the singleton level row, sets the root level of its worker and records the
key of the row as applied. The poller of each worker reads the row, and where its key is
not the one last applied, records it and sets the level. The steps of all threads of all
workers may come in any order.

The two write the level and the key in opposite orders. Where one thread of a worker writes
between the two writes of another, a worker can be left with the key of a row whose level
it does not have, and no later poll repairs that.
-/

namespace Thaum.AdminLogLevel

open PyText GuardedRuns

/-- The level column and the time of a row in microseconds. -/
abbrev DbLogKey := Option Text × Int

/-- The key of the row; `(None, -1.0)` where there is none. -/
def dbLogKey : Option AdminLogLevelState → DbLogKey
  | none => (none, -1000000)
  | some row => (row.logLevel, row.updatedAt)

/-- The log level globals of a worker, with the key last applied. -/
structure RootLog where
  configuredRootLevel : Nat
  rootLevel : Nat
  lastDbLogState : Option DbLogKey

/-- The globals of a process as the handler of a POST sees them. -/
def RootLog.ofWorker (log : WorkerLog) : RootLog where
  configuredRootLevel := log.configuredRootLevel
  rootLevel := log.rootLevel
  lastDbLogState := log.lastDbLogState.map fun key => (key.1, (key.2 : Int))

/-- The level that a key names: the configured one for a null, blank or unknown name. -/
def RootLog.named (log : RootLog) (key : DbLogKey) : Nat :=
  (key.1.bind parseLevelName).getD log.configuredRootLevel

/-- `set_runtime_root_log_level` to the level that a key names. -/
def RootLog.set (log : RootLog) (key : DbLogKey) : RootLog :=
  { log with rootLevel := log.named key }

/-- The key is recorded as applied. -/
def RootLog.mark (log : RootLog) (key : DbLogKey) : RootLog :=
  { log with lastDbLogState := some key }

/-- Where a POST stands: before its commit, before it sets the level, before it records the
key, or at its end. -/
inductive PostThread where
  | waiting | setting | marking | done
deriving DecidableEq

/-- Where a poller stands: before its read, before it compares and records the key it has
read, or before it sets the level. -/
inductive Poller where
  | idle : Poller
  | comparing : DbLogKey → Poller
  | setting : DbLogKey → Poller
deriving DecidableEq

/-- The worker of a POST and the row it commits. -/
structure LevelPost (ι : Type) where
  worker : ι
  row : AdminLogLevelState

/-- The level row, the workers with their pollers, and the POSTs. -/
structure Deployment (ι κ : Type) where
  row : Option AdminLogLevelState
  logs : ι → RootLog
  pollers : ι → Poller
  posts : κ → PostThread

/-- A POST takes its next turn, or its commit fails; a poller takes its next turn, a read
of which may fail. -/
inductive LevelEvent (ι κ : Type) where
  | post : κ → (fails : Bool) → LevelEvent ι κ
  | poll : ι → (fails : Bool) → LevelEvent ι κ

section Step

variable {ι κ : Type} [DecidableEq ι] [DecidableEq κ] (posts : κ → LevelPost ι)

/-- The globals of a worker are written. -/
def Deployment.setLog (state : Deployment ι κ) (worker : ι) (log : RootLog) : Deployment ι κ :=
  { state with logs := fun other => if other = worker then log else state.logs other }

/-- A poller moves. -/
def Deployment.setPoller (state : Deployment ι κ) (worker : ι) (poller : Poller) :
    Deployment ι κ :=
  { state with pollers := fun other => if other = worker then poller else state.pollers other }

/-- A POST moves. -/
def Deployment.setPost (state : Deployment ι κ) (post : κ) (thread : PostThread) :
    Deployment ι κ :=
  { state with posts := fun other => if other = post then thread else state.posts other }

/-- The next turn of a POST. -/
def postTurn (state : Deployment ι κ) (post : κ) (fails : Bool) : Deployment ι κ :=
  let worker := (posts post).worker
  let key := dbLogKey (some (posts post).row)
  match state.posts post with
  | .waiting =>
    if fails then state.setPost post .done
    else { state with row := some (posts post).row }.setPost post .setting
  | .setting => (state.setLog worker ((state.logs worker).set key)).setPost post .marking
  | .marking => (state.setLog worker ((state.logs worker).mark key)).setPost post .done
  | .done => state

/-- The next turn of `apply_runtime_log_level_from_db` in a poller. -/
def pollTurn (state : Deployment ι κ) (worker : ι) (fails : Bool) : Deployment ι κ :=
  match state.pollers worker with
  | .idle =>
    if fails then state else state.setPoller worker (.comparing (dbLogKey state.row))
  | .comparing key =>
    if (state.logs worker).lastDbLogState = some key then state.setPoller worker .idle
    else (state.setLog worker ((state.logs worker).mark key)).setPoller worker (.setting key)
  | .setting key => (state.setLog worker ((state.logs worker).set key)).setPoller worker .idle

/-- An event in the deployment. -/
def levelStep (state : Deployment ι κ) : LevelEvent ι κ → Deployment ι κ
  | .post post fails => postTurn posts state post fails
  | .poll worker fails => pollTurn state worker fails

/-- No row has been applied, no poll and no POST has begun. -/
def Deployment.start (row : Option AdminLogLevelState) (configured initially : ι → Nat) :
    Deployment ι κ where
  row := row
  logs worker :=
    { configuredRootLevel := configured worker, rootLevel := initially worker,
      lastDbLogState := none }
  pollers _ := .idle
  posts _ := .waiting

/-- No POST has committed and not yet recorded its key. -/
def Deployment.NoPostInFlight (state : Deployment ι κ) : Prop :=
  ∀ post, state.posts post = .waiting ∨ state.posts post = .done

/-- The worker has the level that the row names. -/
def Deployment.Aligned (state : Deployment ι κ) (worker : ι) : Prop :=
  (state.logs worker).rootLevel = (state.logs worker).named (dbLogKey state.row)

/-- The event is a turn of a poller. -/
def LevelEvent.IsPoll : LevelEvent ι κ → Prop
  | .poll _ _ => True
  | .post _ _ => False

/-- Once no POST is in flight, a worker that begins a poll and completes it has the level
that the row names, however the polls go on. -/
def LevelsConverge (start : Deployment ι κ) (events : List (LevelEvent ι κ)) : Prop :=
  ∀ before quiet worker middle later,
    events = before ++ (quiet ++ .poll worker false :: (middle ++ later)) →
    (run (levelStep posts) start before).NoPostInFlight →
    (∀ event ∈ quiet ++ (middle ++ later), event.IsPoll) →
    (run (levelStep posts) start (before ++ quiet)).pollers worker = .idle →
    (run (levelStep posts) start
      (before ++ (quiet ++ .poll worker false :: middle))).pollers worker = .idle →
    (run (levelStep posts) start events).Aligned worker

/-- The POST is between its two writes. -/
def Deployment.Posting (state : Deployment ι κ) (worker : ι) (post : κ) : Prop :=
  (posts post).worker = worker ∧ state.posts post = .marking

/-- The poller is between its two writes. -/
def Deployment.Polling (state : Deployment ι κ) (worker : ι) : Prop :=
  ∃ key, state.pollers worker = .setting key

/-- No thread of a worker writes its level or key while another is between its two
writes. -/
def OneWriter (state : Deployment ι κ) : LevelEvent ι κ → Prop
  | .post post _ => state.posts post = .setting ∨ state.posts post = .marking →
      ¬ state.Polling (posts post).worker ∧
        ∀ other, other ≠ post → ¬ state.Posting posts (posts post).worker other
  | .poll worker _ =>
      (∃ key, state.pollers worker = .comparing key ∧
        (state.logs worker).lastDbLogState ≠ some key) ∨ state.Polling worker →
      ∀ other, ¬ state.Posting posts worker other

end Step

/-- The three writes of a POST that nothing interrupts are those of its handler. Here they are
separate steps, since a poller of the same worker may come between them. -/
theorem post_writes (row : AdminLogLevelState) (log : WorkerLog) :
    ((RootLog.ofWorker log).set (dbLogKey (some row))).mark (dbLogKey (some row)) =
      RootLog.ofWorker (markDbLogStateApplied row.logLevel row.updatedAt
        (setRuntimeRootLogLevel (row.logLevel.bind parseLevelName) log)) := rfl

section Worker

variable {κ : Type} {keys : κ → DbLogKey} {marking after : κ → Prop} {log : RootLog}
  {poller : Poller} {post : κ} {key : DbLogKey}

/-- What holds of a worker while its threads write one at a time: where none is between its
writes, the level is that of the recorded key; a poller has recorded its key, and a POST has
set its level. -/
structure Orderly (keys : κ → DbLogKey) (marking : κ → Prop) (log : RootLog) (poller : Poller) :
    Prop where
  settled : (∀ post, ¬ marking post) → (∀ key, poller ≠ .setting key) →
    ∀ key, log.lastDbLogState = some key → log.rootLevel = log.named key
  polling : ∀ key, poller = .setting key →
    log.lastDbLogState = some key ∧ ∀ post, ¬ marking post
  posting : ∀ post, marking post → log.rootLevel = log.named (keys post)
  single : ∀ post other, marking post → marking other → post = other

/-- A POST sets its level while no other thread is between its writes. From then on it is the one
that is, and the level is that of its key. -/
theorem Orderly.of_set_level (noPoll : ∀ key, poller ≠ .setting key)
    (own : ∀ other, after other ↔ other = post) :
    Orderly keys after (log.set (keys post)) poller := by
  constructor
  · intro none _
    exact absurd ((own post).mpr rfl) (none post)
  · intro key isSetting
    exact absurd isSetting (noPoll key)
  · intro other isMarking
    rw [(own other).mp isMarking]
    rfl
  · intro first second one two
    exact ((own first).mp one).trans ((own second).mp two).symm

/-- A POST records its key, and with the level that it has set the worker is settled. -/
theorem Orderly.mark_key (orderly : Orderly keys marking log poller) (isMarking : marking post)
    (others : ∀ other, after other ↔ marking other ∧ other ≠ post) :
    Orderly keys after (log.mark (keys post)) poller := by
  have none (other : κ) : ¬ after other := by
    intro isAfter
    obtain ⟨markingToo, different⟩ := (others other).mp isAfter
    exact different (orderly.single other post markingToo isMarking)
  constructor
  · intro _ _ key recorded
    rw [← Option.some.inj recorded]
    exact orderly.posting post isMarking
  · intro key isSetting
    exact absurd isMarking ((orderly.polling key isSetting).2 post)
  · exact fun other isAfter => absurd isAfter (none other)
  · exact fun other _ isAfter => absurd isAfter (none other)

/-- A poller records its key while no POST is between its writes, and is then between its own. -/
theorem Orderly.record_key (noPost : ∀ post, ¬ marking post) :
    Orderly keys marking (log.mark key) (.setting key) := by
  constructor
  · intro _ noPoll
    exact absurd rfl (noPoll key)
  · intro other isSetting
    rw [Poller.setting.inj isSetting]
    exact ⟨rfl, noPost⟩
  · exact fun post isMarking => absurd isMarking (noPost post)
  · exact fun post _ isMarking => absurd isMarking (noPost post)

/-- A poller sets the level of the key it has recorded, which settles the worker. -/
theorem Orderly.finish (orderly : Orderly keys marking log (.setting key)) :
    Orderly keys marking (log.set key) .idle := by
  obtain ⟨recorded, noPost⟩ := orderly.polling key rfl
  constructor
  · intro _ _ other isOther
    have same : other = key := Option.some.inj (isOther.symm.trans recorded)
    rw [same]
    rfl
  · exact fun _ isSetting => nomatch isSetting
  · exact fun post isMarking => absurd isMarking (noPost post)
  · exact fun post _ isMarking => absurd isMarking (noPost post)

/-- A poller that is not between its writes moves without writing, so the worker stays as orderly as
it was. -/
theorem Orderly.move {next : Poller} (orderly : Orderly keys marking log poller)
    (before : ∀ key, poller ≠ .setting key) (later : ∀ key, next ≠ .setting key) :
    Orderly keys marking log next :=
  ⟨fun noPost _ => orderly.settled noPost before,
    fun key isSetting => absurd isSetting (later key), orderly.posting, orderly.single⟩

/-- Whether a worker is orderly depends on which of its POSTs are between their writes, not on how
that is said. -/
theorem Orderly.congr (orderly : Orderly keys marking log poller)
    (same : ∀ post, after post ↔ marking post) : Orderly keys after log poller := by
  have equal : after = marking := funext fun post => propext (same post)
  rwa [equal]

end Worker

variable {ι κ : Type} {posts : κ → LevelPost ι} {state : Deployment ι κ}

/-- The key that a POST records. -/
def postKey (posts : κ → LevelPost ι) (post : κ) : DbLogKey := dbLogKey (some (posts post).row)

/-- Every worker is orderly. -/
def AllOrderly (posts : κ → LevelPost ι) (state : Deployment ι κ) : Prop :=
  ∀ worker, Orderly (postKey posts) (state.Posting posts worker) (state.logs worker)
    (state.pollers worker)

/-- At the start no thread is between its writes and no key is recorded. -/
theorem start_orderly (posts : κ → LevelPost ι) (row : Option AdminLogLevelState)
    (configured initially : ι → Nat) :
    AllOrderly posts (Deployment.start row configured initially) := by
  intro worker
  constructor
  · exact fun _ _ _ recorded => nomatch recorded
  · exact fun _ isSetting => nomatch isSetting
  · exact fun _ isMarking => nomatch isMarking.2
  · exact fun _ _ isMarking => nomatch isMarking.2

/-- The worker has applied the row, and its poller does nothing any more. -/
def Applied (state : Deployment ι κ) (worker : ι) : Prop :=
  (state.logs worker).lastDbLogState = some (dbLogKey state.row) ∧ state.Aligned worker ∧
    (state.pollers worker = .idle ∨ state.pollers worker = .comparing (dbLogKey state.row))

/-- The worker has applied the row or is about to. -/
def Applying (state : Deployment ι κ) (worker : ι) : Prop :=
  Applied state worker ∨
    (state.pollers worker = .comparing (dbLogKey state.row) ∧
      ∀ key, (state.logs worker).lastDbLogState = some key →
        (state.logs worker).rootLevel = (state.logs worker).named key) ∨
    (state.pollers worker = .setting (dbLogKey state.row) ∧
      (state.logs worker).lastDbLogState = some (dbLogKey state.row))

/-- A worker whose poll has come to its end has applied the row: it was about to, and has no turn
left to do so. -/
theorem applied_of_idle {worker : ι} (applying : Applying state worker)
    (idle : state.pollers worker = .idle) : Applied state worker := by
  rcases applying with applied | ⟨comparing, _⟩ | ⟨setting, _⟩
  · exact applied
  · exact nomatch idle.symm.trans comparing
  · exact nomatch idle.symm.trans setting

variable [DecidableEq κ] in
/-- A POST that moves without coming between its writes leaves it as it was who is. -/
theorem posting_moved {post : κ} {thread : PostThread} (before : state.posts post ≠ .marking)
    (later : thread ≠ .marking) (worker : ι) (other : κ) :
    (state.setPost post thread).Posting posts worker other ↔ state.Posting posts worker other := by
  have moved : (state.setPost post thread).Posting posts worker other ↔
      (posts other).worker = worker ∧
        (if other = post then thread else state.posts other) = .marking := Iff.rfl
  rw [moved]
  by_cases own : other = post
  · subst own
    rw [if_pos rfl]
    exact iff_of_false (fun both => later both.2) (fun both => before both.2)
  · rw [if_neg own]
    exact Iff.rfl

variable [DecidableEq ι]

/-- A poller that moves and writes in its worker leaves the others as they are. Only its own worker
has to be looked at. -/
theorem orderly_polled {after : Deployment ι κ} {worker : ι} (orderly : AllOrderly posts state)
    (samePosts : after.posts = state.posts)
    (others : ∀ other, other ≠ worker →
      after.logs other = state.logs other ∧ after.pollers other = state.pollers other)
    (own : Orderly (postKey posts) (state.Posting posts worker) (after.logs worker)
      (after.pollers worker)) : AllOrderly posts after := by
  intro other
  have samePosting (post : κ) :
      after.Posting posts other post ↔ state.Posting posts other post := by
    rw [Deployment.Posting, Deployment.Posting, samePosts]
  by_cases isOwn : other = worker
  · subst isOwn
    exact own.congr samePosting
  · obtain ⟨sameLog, samePoller⟩ := others other isOwn
    rw [sameLog, samePoller]
    exact (orderly other).congr samePosting

/-- A poll leaves the row, the POSTs and the other workers. This is the frame of every turn of a
poller. -/
theorem pollTurn_others (state : Deployment ι κ) (worker : ι) (fails : Bool) :
    (pollTurn state worker fails).row = state.row ∧
      (pollTurn state worker fails).posts = state.posts ∧
      ∀ other, other ≠ worker →
        (pollTurn state worker fails).logs other = state.logs other ∧
          (pollTurn state worker fails).pollers other = state.pollers other := by
  unfold pollTurn
  cases state.pollers worker with
  | idle =>
    cases fails with
    | true => exact ⟨rfl, rfl, fun _ _ => ⟨rfl, rfl⟩⟩
    | false => exact ⟨rfl, rfl, fun _ different => ⟨rfl, if_neg different⟩⟩
  | comparing key =>
    dsimp only
    split
    · exact ⟨rfl, rfl, fun _ different => ⟨rfl, if_neg different⟩⟩
    · exact ⟨rfl, rfl, fun _ different => ⟨if_neg different, if_neg different⟩⟩
  | setting key => exact ⟨rfl, rfl, fun _ different => ⟨if_neg different, if_neg different⟩⟩

/-- What a poll does in its own worker. -/
inductive PollMove (state : Deployment ι κ) (worker : ι) (after : RootLog) : Poller → Prop where
  | stays : after = state.logs worker → state.pollers worker = .idle →
    PollMove state worker after .idle
  | reads : after = state.logs worker → state.pollers worker = .idle →
    PollMove state worker after (.comparing (dbLogKey state.row))
  | skips (key : DbLogKey) : after = state.logs worker → state.pollers worker = .comparing key →
    (state.logs worker).lastDbLogState = some key → PollMove state worker after .idle
  | records (key : DbLogKey) : after = (state.logs worker).mark key →
    state.pollers worker = .comparing key → (state.logs worker).lastDbLogState ≠ some key →
    PollMove state worker after (.setting key)
  | sets (key : DbLogKey) : after = (state.logs worker).set key →
    state.pollers worker = .setting key → PollMove state worker after .idle

/-- Each turn of a poll is one of the moves, from where the poller stands. -/
theorem pollTurn_move (state : Deployment ι κ) (worker : ι) (fails : Bool) :
    PollMove state worker ((pollTurn state worker fails).logs worker)
      ((pollTurn state worker fails).pollers worker) := by
  unfold pollTurn
  cases stands : state.pollers worker with
  | idle =>
    cases fails with
    | true =>
      rw [if_pos rfl, stands]
      exact .stays rfl stands
    | false =>
      have moved : (state.setPoller worker (.comparing (dbLogKey state.row))).pollers worker =
          .comparing (dbLogKey state.row) := if_pos rfl
      rw [if_neg Bool.false_ne_true, moved]
      exact .reads rfl stands
  | comparing key =>
    dsimp only
    split
    · rename_i recorded
      have moved : (state.setPoller worker .idle).pollers worker = .idle := if_pos rfl
      rw [moved]
      exact .skips key rfl stands recorded
    · rename_i different
      have moved : ((state.setLog worker ((state.logs worker).mark key)).setPoller worker
          (.setting key)).pollers worker = .setting key := if_pos rfl
      rw [moved]
      exact .records key (if_pos rfl) stands different
  | setting key =>
    have moved : ((state.setLog worker ((state.logs worker).set key)).setPoller worker
        .idle).pollers worker = .idle := if_pos rfl
    dsimp only
    rw [moved]
    exact .sets key (if_pos rfl) stands

/-- What a poll does to the workers: with one writer at a time they stay orderly. The cases are the
moves of the poll. -/
theorem pollTurn_orderly (worker : ι) (fails : Bool) (orderly : AllOrderly posts state)
    (alone : OneWriter posts state (.poll worker fails)) :
    AllOrderly posts (pollTurn state worker fails) := by
  obtain ⟨_, samePosts, others⟩ := pollTurn_others state worker fails
  apply orderly_polled orderly samePosts others
  have own := orderly worker
  have move := pollTurn_move state worker fails
  generalize (pollTurn state worker fails).logs worker = log at move
  generalize (pollTurn state worker fails).pollers worker = poller at move
  cases move with
  | stays sameLog stands =>
    rw [sameLog]
    rwa [stands] at own
  | reads sameLog stands =>
    rw [stands] at own
    rw [sameLog]
    exact own.move (fun _ isSetting => nomatch isSetting) fun _ isSetting => nomatch isSetting
  | skips key sameLog stands _ =>
    rw [stands] at own
    rw [sameLog]
    exact own.move (fun _ isSetting => nomatch isSetting) fun _ isSetting => nomatch isSetting
  | records key marked stands different =>
    rw [marked]
    exact .record_key (alone (Or.inl ⟨key, stands, different⟩))
  | sets key written stands =>
    rw [stands] at own
    rw [written]
    exact own.finish

variable {worker : ι}

/-- A poll of another worker leaves what a worker has applied, or is about to apply. -/
theorem poll_other {other : ι} (different : worker ≠ other) (fails : Bool) :
    (Applied (pollTurn state other fails) worker ↔ Applied state worker) ∧
      (Applying (pollTurn state other fails) worker ↔ Applying state worker) := by
  obtain ⟨sameRow, _, others⟩ := pollTurn_others state other fails
  obtain ⟨sameLog, samePoller⟩ := others worker different
  have same : Applied (pollTurn state other fails) worker ↔ Applied state worker := by
    rw [Applied, Applied, Deployment.Aligned, Deployment.Aligned, sameRow, sameLog, samePoller]
  refine ⟨same, ?_⟩
  rw [Applying, Applying, same, sameRow, sameLog, samePoller]

/-- A worker that has applied the row stays so: a poll that finds the key recorded writes
nothing. -/
theorem poll_applied (own : ι) (fails : Bool) (applied : Applied state worker) :
    Applied (pollTurn state own fails) worker := by
  by_cases isOwn : worker = own
  · subst isOwn
    obtain ⟨recorded, aligned, stands⟩ := applied
    have sameRow := (pollTurn_others state worker fails).1
    have move := pollTurn_move state worker fails
    rw [Applied, Deployment.Aligned, sameRow]
    generalize (pollTurn state worker fails).logs worker = log at move
    generalize (pollTurn state worker fails).pollers worker = poller at move
    cases move with
    | stays sameLog _ =>
      rw [sameLog]
      exact ⟨recorded, aligned, Or.inl rfl⟩
    | reads sameLog _ =>
      rw [sameLog]
      exact ⟨recorded, aligned, Or.inr rfl⟩
    | skips key sameLog _ _ =>
      rw [sameLog]
      exact ⟨recorded, aligned, Or.inl rfl⟩
    | records key _ isComparing different =>
      rcases stands with idle | comparing
      · exact nomatch idle.symm.trans isComparing
      · obtain rfl := Poller.comparing.inj (comparing.symm.trans isComparing)
        exact absurd recorded different
    | sets key _ isSetting =>
      rcases stands with idle | comparing
      · exact nomatch idle.symm.trans isSetting
      · exact nomatch comparing.symm.trans isSetting
  · exact (poll_other isOwn fails).1.mpr applied

/-- A worker that is about to apply the row goes on until it has, through its own polls and those of
others. -/
theorem poll_applying (own : ι) (fails : Bool) (applying : Applying state worker) :
    Applying (pollTurn state own fails) worker := by
  by_cases isOwn : worker = own
  · subst isOwn
    rcases applying with applied | before
    · exact Or.inl (poll_applied worker fails applied)
    · have sameRow := (pollTurn_others state worker fails).1
      have move := pollTurn_move state worker fails
      rw [Applying, Applied, Deployment.Aligned, sameRow]
      generalize (pollTurn state worker fails).logs worker = log at move
      generalize (pollTurn state worker fails).pollers worker = poller at move
      rcases before with ⟨comparing, settled⟩ | ⟨setting, recorded⟩
      · cases move with
        | stays _ idle => exact nomatch idle.symm.trans comparing
        | reads _ idle => exact nomatch idle.symm.trans comparing
        | skips key sameLog isComparing recorded =>
          obtain rfl := Poller.comparing.inj (comparing.symm.trans isComparing)
          rw [sameLog]
          exact Or.inl ⟨recorded, settled _ recorded, Or.inl rfl⟩
        | records key marked isComparing _ =>
          obtain rfl := Poller.comparing.inj (comparing.symm.trans isComparing)
          rw [marked]
          exact Or.inr (Or.inr ⟨rfl, rfl⟩)
        | sets key _ isSetting => exact nomatch comparing.symm.trans isSetting
      · cases move with
        | stays _ idle => exact nomatch idle.symm.trans setting
        | reads _ idle => exact nomatch idle.symm.trans setting
        | skips key _ isComparing _ => exact nomatch isComparing.symm.trans setting
        | records key _ isComparing _ => exact nomatch isComparing.symm.trans setting
        | sets key written isSetting =>
          obtain rfl := Poller.setting.inj (setting.symm.trans isSetting)
          rw [written]
          exact Or.inl ⟨recorded, rfl, Or.inl rfl⟩
  · exact (poll_other isOwn fails).2.mpr applying

/-- A worker that has no thread between its writes is about to apply the row once its poller has
read it. Either it records the key it has read, or that key was recorded before, and then the level
is that of the row. -/
theorem read_applying (orderly : AllOrderly posts state) (noPost : state.NoPostInFlight)
    (idle : state.pollers worker = .idle) : Applying (pollTurn state worker false) worker := by
  have own := orderly worker
  have settled := own.settled
    (fun post isMarking => by
      rcases noPost post with waiting | done
      · exact nomatch waiting.symm.trans isMarking.2
      · exact nomatch done.symm.trans isMarking.2)
    (fun key isSetting => nomatch idle.symm.trans isSetting)
  have moved : pollTurn state worker false =
      state.setPoller worker (.comparing (dbLogKey state.row)) := by
    unfold pollTurn
    rw [idle]
    rfl
  rw [moved]
  exact Or.inr (Or.inl ⟨if_pos rfl, settled⟩)

variable [DecidableEq κ]

/-- A POST that writes in its worker leaves the others as they are, so again only its own worker has
to be looked at. -/
theorem orderly_written {post : κ} {thread : PostThread} {log : RootLog}
    (orderly : AllOrderly posts state)
    (own : Orderly (postKey posts)
      (fun other => (posts other).worker = (posts post).worker ∧
        (if other = post then thread else state.posts other) = .marking)
      log (state.pollers (posts post).worker)) :
    AllOrderly posts ((state.setLog (posts post).worker log).setPost post thread) := by
  intro worker
  by_cases isOwn : worker = (posts post).worker
  · subst isOwn
    have written : ((state.setLog (posts post).worker log).setPost post thread).logs
        (posts post).worker = log := if_pos rfl
    rw [written]
    exact own
  · have kept : ((state.setLog (posts post).worker log).setPost post thread).logs worker =
        state.logs worker := if_neg isOwn
    rw [kept]
    apply (orderly worker).congr
    intro other
    by_cases isPost : other = post
    · subst isPost
      exact iff_of_false (fun both => isOwn both.1.symm) (fun both => isOwn both.1.symm)
    · have same : ((state.setLog (posts post).worker log).setPost post thread).posts other =
          state.posts other := if_neg isPost
      rw [Deployment.Posting, Deployment.Posting, same]

/-- What a POST does to the workers: with one writer at a time they stay orderly. Its commit writes
the row only; the level and the key are written in turns of their own. -/
theorem postTurn_orderly (post : κ) (fails : Bool) (orderly : AllOrderly posts state)
    (alone : OneWriter posts state (.post post fails)) :
    AllOrderly posts (postTurn posts state post fails) := by
  unfold postTurn
  cases stands : state.posts post with
  | waiting =>
    have before : state.posts post ≠ .marking := by simp [stands]
    cases fails with
    | true =>
      intro worker
      exact (orderly worker).congr (posting_moved before (by decide) worker)
    | false =>
      intro worker
      apply (orderly worker).congr
      exact @posting_moved _ _ posts { state with row := some (posts post).row } _ _ _ before
        (by decide) worker
  | setting =>
    obtain ⟨noPoll, noPost⟩ := alone (Or.inl stands)
    apply orderly_written orderly
    apply Orderly.of_set_level
    · exact fun key isSetting => noPoll ⟨key, isSetting⟩
    · intro other
      by_cases isPost : other = post
      · subst isPost
        simp
      · rw [if_neg isPost]
        exact iff_of_false (noPost other isPost) isPost
  | marking =>
    apply orderly_written orderly
    apply (orderly (posts post).worker).mark_key ⟨rfl, stands⟩
    intro other
    by_cases isPost : other = post
    · subst isPost
      simp
    · simp [isPost, Deployment.Posting]
  | done => exact orderly

/-- An event keeps the workers orderly, if its thread writes while no other one is between its
writes. -/
theorem levelStep_orderly (event : LevelEvent ι κ) (orderly : AllOrderly posts state)
    (alone : OneWriter posts state event) : AllOrderly posts (levelStep posts state event) := by
  cases event with
  | post post fails => exact postTurn_orderly post fails orderly alone
  | poll worker fails => exact pollTurn_orderly worker fails orderly alone

variable {events : List (LevelEvent ι κ)}

/-- Polls leave the POSTs, so none comes in flight through them. -/
theorem polls_posts (polls : ∀ event ∈ events, event.IsPoll) :
    (run (levelStep posts) state events).posts = state.posts := by
  induction events generalizing state with
  | nil => rfl
  | cons event rest inductionHypothesis =>
    obtain ⟨isPoll, others⟩ := List.forall_mem_cons.mp polls
    cases event with
    | post post fails => exact isPoll.elim
    | poll worker fails =>
      rw [run_cons, inductionHypothesis others]
      exact (pollTurn_others state worker fails).2.1

variable (posts) in
/-- Through any number of polls a worker that has applied the row stays so. -/
theorem polls_applied (polls : ∀ event ∈ events, event.IsPoll) (applied : Applied state worker) :
    Applied (run (levelStep posts) state events) worker := by
  induction events generalizing state with
  | nil => exact applied
  | cons event rest inductionHypothesis =>
    obtain ⟨isPoll, others⟩ := List.forall_mem_cons.mp polls
    cases event with
    | post post fails => exact isPoll.elim
    | poll own fails => exact inductionHypothesis others (poll_applied own fails applied)

variable (posts) in
/-- Through any number of polls a worker that is about to apply the row stays about to, or has done
so. -/
theorem polls_applying (polls : ∀ event ∈ events, event.IsPoll)
    (applying : Applying state worker) :
    Applying (run (levelStep posts) state events) worker := by
  induction events generalizing state with
  | nil => exact applying
  | cons event rest inductionHypothesis =>
    obtain ⟨isPoll, others⟩ := List.forall_mem_cons.mp polls
    cases event with
    | post post fails => exact isPoll.elim
    | poll own fails => exact inductionHypothesis others (poll_applying own fails applying)

/-- Where the threads of each worker write one at a time the levels converge.

Proof: the guard keeps every worker orderly, so a worker whose poll begins with no POST in flight
has no thread between its writes. Its poll reads the row, from then on it is about to apply it, and
when the poll has ended it has applied it. Further polls leave that as it is. -/
theorem levels_converge (posts : κ → LevelPost ι) (row : Option AdminLogLevelState)
    (configured initially : ι → Nat) (events : List (LevelEvent ι κ))
    (met : Guarded (levelStep posts) (OneWriter posts) (.start row configured initially) events) :
    LevelsConverge posts (.start row configured initially) events := by
  rintro before quiet worker middle later rfl noPost polls idle ended
  have quietPolls : ∀ event ∈ quiet, event.IsPoll :=
    fun event listed => polls event (List.mem_append_left _ listed)
  have middlePolls : ∀ event ∈ middle, event.IsPoll := fun event listed =>
    polls event (List.mem_append_right _ (List.mem_append_left _ listed))
  have laterPolls : ∀ event ∈ later, event.IsPoll := fun event listed =>
    polls event (List.mem_append_right _ (List.mem_append_right _ listed))
  rw [← List.append_assoc] at met ended ⊢
  have orderly := invariant_run (fun _ event orderly alone => levelStep_orderly event orderly alone)
    _ (before ++ quiet) (start_orderly posts row configured initially)
    ((guarded_append _ (before ++ quiet) _).mp met).1
  have stillNone : (run (levelStep posts) (.start row configured initially)
      (before ++ quiet)).NoPostInFlight := by
    intro post
    rw [run_append, polls_posts quietPolls]
    exact noPost post
  rw [run_append, run_cons] at ended ⊢
  rw [run_append]
  have applying := polls_applying posts middlePolls
    (read_applying orderly stillNone idle)
  have applied := polls_applied posts laterPolls (applied_of_idle applying ended)
  exact applied.2.1

section Example

/-- A POST that sets the level of the one worker to `DEBUG`. -/
def debugPost (_ : Unit) : LevelPost Unit where
  worker := ()
  row := { logLevel := some "DEBUG".toList, updatedAt := 7 }

/-- A worker at `INFO` and no level row. -/
def infoStart : Deployment Unit Unit := .start none (fun _ => 20) (fun _ => 20)

/-- The poller records the key of the missing row, the POST goes through, and the poller
sets the level; then a whole poll. -/
def overtakenPoll : List (LevelEvent Unit Unit) :=
  [.poll () false, .poll () false, .post () false, .post () false, .post () false,
    .poll () false]

/-- The worker stays at `INFO` although the row names `DEBUG`. -/
theorem overtaken_poll_diverges :
    ¬ LevelsConverge debugPost infoStart (overtakenPoll ++ [.poll () false, .poll () false]) := by
  intro converges
  have aligned : 20 = 10 := converges overtakenPoll [] () [.poll () false] [] rfl
    (fun _ => Or.inr rfl)
    (fun event listed => by
      obtain rfl := List.mem_singleton.mp listed
      trivial) rfl rfl
  exact absurd aligned (by decide)

/-- The POST waits for the poller to set the level. -/
def orderedPoll : List (LevelEvent Unit Unit) :=
  [.poll () false, .poll () false, .poll () false, .post () false, .post () false,
    .post () false, .poll () false, .poll () false]

/-- With the POST behind the poller's two writes the worker comes to `DEBUG`. -/
theorem ordered_poll_converges : LevelsConverge debugPost infoStart orderedPoll := by
  apply levels_converge debugPost none (fun _ => 20) (fun _ => 20) orderedPoll
  have noOther (state : Deployment Unit Unit) (other : Unit) (different : other ≠ ()) :
      ¬ state.Posting debugPost () other := fun _ => different rfl
  refine ⟨?_, ?_, ?_, ?_, ?_, ?_, ?_, ?_, trivial⟩
  · exact fun _ _ posting => nomatch posting.2
  · exact fun _ _ posting => nomatch posting.2
  · exact fun _ _ posting => nomatch posting.2
  · exact fun stands => by rcases stands with stands | stands <;> exact nomatch stands
  · intro _
    exact ⟨(fun ⟨_, polling⟩ => nomatch polling), noOther _⟩
  · intro _
    exact ⟨(fun ⟨_, polling⟩ => nomatch polling), noOther _⟩
  · exact fun _ _ posting => nomatch posting.2
  · exact fun _ _ posting => nomatch posting.2

end Example

end Thaum.AdminLogLevel
