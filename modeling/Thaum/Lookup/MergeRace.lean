import Mathlib.Logic.Function.Iterate
import Thaum.Lookup.PlatformIds

/-!
# Two workers that merge one person

`merge_person` is a transaction: it reads the person row, looks every platform id of
the fragment up, reads the merged person back and commits. Every read sees what is
committed by then and what the transaction itself is to write. A row that another
transaction has committed under the same primary key makes the commit raise.

Two calls interleave at their reads and commits. A call of its own goes through and does
what `mergePerson` says; where two calls for a new email overlap at all, both have read
that there is no such person and one of them raises.
-/

namespace Thaum.Lookup

open PyText KeyedRows GuardedRuns

/-- What a call is to write to the people table. -/
inductive PersonWrite where
  | insert : SchemaPerson → PersonWrite
  | update : SchemaPerson → PersonWrite
  | keep : SchemaPerson → PersonWrite

/-- The person as the session holds it. -/
def PersonWrite.row : PersonWrite → SchemaPerson
  | .insert row | .update row | .keep row => row

/-- The write that the person row read at the start leads to. -/
def personWrite (now : Nat) (fragment : ThaumPerson) : Option SchemaPerson → PersonWrite
  | none => .insert (mergedRow now fragment none)
  | some existing =>
    if mergedRow now fragment (some existing) = existing then .keep existing
    else .update (mergedRow now fragment (some existing))

/-- What an open transaction is to write. -/
structure Draft where
  person : PersonWrite
  platformIds : List SchemaPlatformId

/-- The tables as the transaction reads them: the person is the session's own. -/
def Draft.view (draft : Draft) (db : IdentityDb) : IdentityDb :=
  { db with
    people := put SchemaPerson.email draft.person.row db.people
    platformIds := db.platformIds ++ draft.platformIds }

/-- The tables as the commit leaves them. -/
def Draft.commit (draft : Draft) (db : IdentityDb) : IdentityDb :=
  { db with
    people :=
      match draft.person with
      | .insert row => db.people ++ [row]
      | .update row => put SchemaPerson.email row db.people
      | .keep _ => db.people
    platformIds := db.platformIds ++ draft.platformIds }

/-- The primary key of a person to insert is taken. -/
def PersonWrite.taken (db : IdentityDb) : PersonWrite → Bool
  | .insert row => (get SchemaPerson.email row.email db.people).isSome
  | .update _ | .keep _ => false

/-- A primary key of the transaction is taken. -/
def Draft.Conflicts (draft : Draft) (db : IdentityDb) : Prop :=
  draft.person.taken db = true ∨
    ∃ row ∈ draft.platformIds, (get SchemaPlatformId.key row.key db.platformIds).isSome = true

instance (draft : Draft) (db : IdentityDb) : Decidable (draft.Conflicts db) :=
  inferInstanceAs (Decidable (_ ∨ _))

/-- Where a call of `merge_person` stands. -/
inductive MergeCall where
  | waiting : MergeCall
  | reading : Draft → (unread : List (Text × Text)) → MergeCall
  | merged : Draft → ThaumPerson → MergeCall
  | returned : ThaumPerson → MergeCall
  | raised : MergeCall

/-- What a call is to write once it has read the person row and found ids unbound. -/
def PersonMerge.draft (merge : PersonMerge) (db : IdentityDb) (unbound : List SchemaPlatformId) :
    Draft where
  person :=
    personWrite merge.now merge.fragment (get SchemaPerson.email merge.fragment.email db.people)
  platformIds := unbound

/-- The next read of a call, or its commit. -/
def MergeCall.advance (plugin : LookupPlugin) (merge : PersonMerge) (db : IdentityDb) :
    MergeCall → IdentityDb × MergeCall
  | .waiting =>
    (db, .reading (merge.draft db []) merge.fragment.platformIds)
  | .reading draft (id :: rest) =>
    match get SchemaPlatformId.key id (draft.view db).platformIds with
    | some _ => (db, .reading draft rest)
    | none =>
      (db, .reading
        { draft with
          platformIds := draft.platformIds ++
            [{ platformKey := id.1, platformId := id.2, email := merge.fragment.email }] } rest)
  | .reading draft [] =>
    (db, .merged draft
      ((readPersonByEmail plugin (draft.view db) merge.fragment.email).getD merge.fragment))
  | .merged draft person =>
    if draft.Conflicts db then (db, .raised) else (draft.commit db, .returned person)
  | .returned person => (db, .returned person)
  | .raised => (db, .raised)

/-- The two workers. -/
inductive Worker where
  | first | second
deriving DecidableEq

/-- The other of the two. -/
def Worker.other : Worker → Worker
  | .first => .second
  | .second => .first

/-- The tables and the two calls. -/
structure Race where
  db : IdentityDb
  call : Worker → MergeCall

/-- Both calls before their first turn. -/
def Race.start (db : IdentityDb) : Race := { db, call := fun _ => .waiting }

/-- One worker takes its next turn. -/
def raceStep (plugin : LookupPlugin) (merges : Worker → PersonMerge) (state : Race)
    (worker : Worker) : Race where
  db := ((state.call worker).advance plugin (merges worker) state.db).1
  call := fun other =>
    if other = worker then ((state.call worker).advance plugin (merges worker) state.db).2
    else state.call other

/-- The reads of a call and its commit. -/
def PersonMerge.turns (merge : PersonMerge) : Nat := merge.fragment.platformIds.length + 3

/-- Every call takes all its turns. -/
def Complete (merges : Worker → PersonMerge) (schedule : List Worker) : Prop :=
  ∀ worker, schedule.count worker = (merges worker).turns

/-- The first read of one call comes after the commit of the other. -/
def Apart (merges : Worker → PersonMerge) (schedule : List Worker) : Prop :=
  ∃ earlier, schedule = List.replicate (merges earlier).turns earlier ++
    List.replicate (merges earlier.other).turns earlier.other

/-- The tables and what both calls return are those of one call after the other. -/
def Serializable (plugin : LookupPlugin) (merges : Worker → PersonMerge) (db : IdentityDb)
    (reached : Race) : Prop :=
  ∃ earlier,
    reached.db = mergeStep (mergeStep db (merges earlier)) (merges earlier.other) ∧
    reached.call earlier = .returned
      (mergePerson plugin (merges earlier).now (merges earlier).fragment db).2 ∧
    reached.call earlier.other = .returned
      (mergePerson plugin (merges earlier.other).now (merges earlier.other).fragment
        (mergeStep db (merges earlier))).2

variable {plugin : LookupPlugin} {merge : PersonMerge} {merges : Worker → PersonMerge}
  {db : IdentityDb} {draft : Draft} {call : MergeCall} {email : Text} {worker other : Worker}
  {state : Race}

/-- A worker is not the other one. -/
@[simp] theorem Worker.other_ne (worker : Worker) : worker.other ≠ worker := by
  cases worker <;> decide

/-- The other of the other is the worker itself. -/
theorem Worker.other_other (worker : Worker) : worker.other.other = worker := by
  cases worker <;> rfl

/-- Whoever is not the worker is the other. -/
theorem Worker.eq_other (different : other ≠ worker) : other = worker.other := by
  cases worker <;> cases other <;> first | rfl | exact absurd rfl different

/-- A turn advances the worker whose turn it is. -/
theorem raceStep_own : (raceStep plugin merges state worker).call worker =
    ((state.call worker).advance plugin (merges worker) state.db).2 := if_pos rfl

/-- A turn leaves the other call where it stands. -/
theorem raceStep_other (plugin : LookupPlugin) (merges : Worker → PersonMerge) (state : Race)
    (different : other ≠ worker) :
    (raceStep plugin merges state worker).call other = state.call other := if_neg different

/-- A turn of a call with nobody else about. -/
def turn (plugin : LookupPlugin) (merge : PersonMerge) (state : IdentityDb × MergeCall) :
    IdentityDb × MergeCall := state.2.advance plugin merge state.1

/-- The turns a call has left. -/
def MergeCall.left (merge : PersonMerge) : MergeCall → Nat
  | .waiting => merge.turns
  | .reading _ unread => unread.length + 2
  | .merged _ _ => 1
  | _ => 0

/-- The transaction is open and is to insert the person. -/
def MergeCall.Inserting (email : Text) (call : MergeCall) : Prop :=
  ∃ draft row, draft.person = .insert row ∧ row.email = email ∧
    ((∃ unread, call = .reading draft unread) ∨ ∃ person, call = .merged draft person)

/-- Turns of one worker in a row are turns of its call with nobody else about, and the other call
stands where it stood. -/
theorem run_replicate (plugin : LookupPlugin) (merges : Worker → PersonMerge) (state : Race)
    (turns : Nat) (worker : Worker) :
    (run (raceStep plugin merges) state (List.replicate turns worker)).db =
        ((turn plugin (merges worker))^[turns] (state.db, state.call worker)).1 ∧
      (run (raceStep plugin merges) state (List.replicate turns worker)).call worker =
        ((turn plugin (merges worker))^[turns] (state.db, state.call worker)).2 ∧
      (run (raceStep plugin merges) state (List.replicate turns worker)).call worker.other =
        state.call worker.other := by
  induction turns generalizing state with
  | zero => exact ⟨rfl, rfl, rfl⟩
  | succ turns inductionHypothesis =>
    obtain ⟨tables, own, others⟩ := inductionHypothesis (raceStep plugin merges state worker)
    have turned : ((raceStep plugin merges state worker).db,
        (raceStep plugin merges state worker).call worker) =
          turn plugin (merges worker) (state.db, state.call worker) :=
      Prod.ext rfl raceStep_own
    rw [turned] at tables own
    rw [raceStep_other _ _ _ worker.other_ne] at others
    exact ⟨tables, own, others⟩

/-- Rows with the email are one row. -/
def OneRow (email : Text) (db : IdentityDb) : Prop :=
  ∀ first ∈ db.people, ∀ second ∈ db.people, first.email = email → second.email = email →
    first = second

/-- Inserted or updated, the row that a call is to write is the merged row. -/
theorem personWrite_row (now : Nat) (fragment : ThaumPerson) (stored : Option SchemaPerson) :
    (personWrite now fragment stored).row = mergedRow now fragment stored := by
  cases stored with
  | none => rfl
  | some existing =>
    rw [personWrite]
    split
    · rename_i same
      exact same.symm
    · rfl

/-- A call reads back the people that `mergePersonDb` stores, since the session has its own
write. -/
theorem view_people (merge : PersonMerge) (db : IdentityDb) (rows : List SchemaPlatformId) :
    ((merge.draft db rows).view db).people = (mergeStep db merge).people :=
  congrArg (fun row => put SchemaPerson.email row db.people) (personWrite_row _ _ _)

/-- And its commit stores them, where at most one row has the email. -/
theorem commit_people (oneRow : OneRow merge.fragment.email db) (rows : List SchemaPlatformId) :
    ((merge.draft db rows).commit db).people = (mergeStep db merge).people := by
  have keyed : (mergedRow merge.now merge.fragment
      (get SchemaPerson.email merge.fragment.email db.people)).email = merge.fragment.email :=
    storedRow_email
  simp only [Draft.commit, PersonMerge.draft, mergeStep, mergePersonDb]
  cases found : get SchemaPerson.email merge.fragment.email db.people with
  | none =>
    rw [found] at keyed
    rw [personWrite, put, keyed, found]
    rfl
  | some existing =>
    by_cases unchanged : mergedRow merge.now merge.fragment (some existing) = existing
    · obtain ⟨stored, isEmail⟩ := get_some found
      rw [personWrite, if_pos unchanged, unchanged]
      refine (put_stored stored ?_).symm
      intro second isStored same
      exact oneRow second isStored existing stored (same.trans isEmail) isEmail
    · rw [personWrite, if_neg unchanged]

/-- The person that a call is to insert was not stored when it read, so with nobody else about the
insertion does not conflict. -/
theorem person_free (rows : List SchemaPlatformId) :
    (merge.draft db rows).person.taken db = false := by
  rw [PersonMerge.draft]
  cases found : get SchemaPerson.email merge.fragment.email db.people with
  | none => simp [personWrite, mergedRow, PersonWrite.taken, found]
  | some existing =>
    rw [personWrite]
    split
    · rfl
    · rfl

/-- A call that reads its ids with nobody else about finds those that `bindPlatformId` binds. The
induction is on the ids still to be read, with the unbound ones found so far carried along. -/
theorem reads_all (plugin : LookupPlugin) (merge : PersonMerge) (db : IdentityDb)
    (person : PersonWrite) (unread : List (Text × Text)) (rows : List SchemaPlatformId)
    (fresh : ∀ row ∈ rows, get SchemaPlatformId.key row.key db.platformIds = none) :
    ∃ unbound, (turn plugin merge)^[unread.length] (db, .reading ⟨person, rows⟩ unread) =
        (db, .reading ⟨person, unbound⟩ []) ∧
      db.platformIds ++ unbound =
        unread.foldl (bindPlatformId merge.fragment.email) (db.platformIds ++ rows) ∧
      ∀ row ∈ unbound, get SchemaPlatformId.key row.key db.platformIds = none := by
  induction unread generalizing rows with
  | nil => exact ⟨rows, rfl, rfl, fresh⟩
  | cons id rest inductionHypothesis =>
    rw [List.length_cons, Function.iterate_succ_apply, List.foldl_cons, bindPlatformId]
    cases found : get SchemaPlatformId.key id (db.platformIds ++ rows) with
    | some bound =>
      have turned : turn plugin merge (db, .reading ⟨person, rows⟩ (id :: rest)) =
          (db, .reading ⟨person, rows⟩ rest) := by
        simp [turn, MergeCall.advance, Draft.view, found]
      rw [turned]
      exact inductionHypothesis rows fresh
    | none =>
      have turned : turn plugin merge (db, .reading ⟨person, rows⟩ (id :: rest)) =
          (db, .reading ⟨person, rows ++ [⟨id.1, id.2, merge.fragment.email⟩]⟩ rest) := by
        simp [turn, MergeCall.advance, Draft.view, found]
      rw [turned, List.append_assoc]
      apply inductionHypothesis
      intro row listed
      rcases List.mem_append.mp listed with old | new
      · exact fresh row old
      · obtain rfl := List.mem_singleton.mp new
        rw [get_none_iff] at found ⊢
        intro row stored
        exact found row (List.mem_append_left _ stored)

/-- A call with nobody else about does what `mergePerson` says: the tables after its commit and the
person it returns are those of the one-step model. -/
theorem alone (plugin : LookupPlugin) (oneRow : OneRow merge.fragment.email db) :
    (turn plugin merge)^[merge.turns] (db, .waiting) =
      (mergeStep db merge,
        .returned (mergePerson plugin merge.now merge.fragment db).2) := by
  obtain ⟨unbound, reads, bound, fresh⟩ :=
    reads_all plugin merge db (merge.draft db []).person merge.fragment.platformIds []
      (by simp)
  rw [List.append_nil] at bound
  have viewed : (merge.draft db unbound).view db = mergeStep db merge := by
    have people := view_people merge db unbound
    simp only [Draft.view, mergeStep, mergePersonDb] at people ⊢
    rw [people, ← bound]
    rfl
  have committed : (merge.draft db unbound).commit db = mergeStep db merge := by
    have people := commit_people oneRow unbound
    simp only [Draft.commit, mergeStep, mergePersonDb] at people ⊢
    rw [people, ← bound]
    rfl
  have free : ¬ (merge.draft db unbound).Conflicts db := by
    rintro (taken | ⟨row, listed, taken⟩)
    · rw [person_free] at taken
      exact Bool.false_ne_true taken
    · rw [fresh row listed] at taken
      exact Bool.false_ne_true taken
  calc (turn plugin merge)^[merge.turns] (db, .waiting)
      = (turn plugin merge)^[2] ((turn plugin merge)^[merge.fragment.platformIds.length]
          (db, .reading (merge.draft db []) merge.fragment.platformIds)) := by
        rw [← Function.iterate_add_apply, Nat.add_comm 2]
        rfl
    _ = (turn plugin merge)^[2] (db, .reading (merge.draft db unbound) []) :=
        congrArg _ reads
    _ = (mergeStep db merge,
          .returned (mergePerson plugin merge.now merge.fragment db).2) := by
        simp only [Function.iterate_succ_apply, Function.iterate_zero_apply, turn,
          MergeCall.advance, if_neg free, viewed, committed]
        rfl

/-- A call for an email that is not stored is to insert the person after its first read. -/
theorem waiting_inserting (plugin : LookupPlugin)
    (absent : ¬ Known db merge.fragment.email) :
    MergeCall.Inserting merge.fragment.email
      (MergeCall.advance plugin merge db .waiting).2 := by
  have found : get SchemaPerson.email merge.fragment.email db.people = none :=
    get_none_iff.mpr fun row stored keyed => absent ⟨row, stored, keyed⟩
  refine ⟨merge.draft db [], mergedRow merge.now merge.fragment none, ?_, rfl, ?_⟩
  · simp [PersonMerge.draft, found, personWrite]
  · exact Or.inl ⟨_, rfl⟩

/-- The next turn of a call that is to insert the person: it reads on and changes nothing, or it is
its commit, which raises where the person has been stored meanwhile. -/
theorem MergeCall.Inserting.advance (inserting : call.Inserting email)
    (plugin : LookupPlugin) (merge : PersonMerge) (db : IdentityDb) :
    ((call.advance plugin merge db).1 = db ∧
        (call.advance plugin merge db).2.Inserting email ∧
        (call.advance plugin merge db).2.left merge + 1 = call.left merge) ∨
      call.left merge = 1 ∧
        ((call.advance plugin merge db).2 = .raised ∨
          ¬ Known db email ∧ Known (call.advance plugin merge db).1 email) := by
  obtain ⟨draft, row, inserts, keyed, ⟨unread, rfl⟩ | ⟨person, rfl⟩⟩ := inserting
  · left
    cases unread with
    | nil => exact ⟨rfl, ⟨draft, row, inserts, keyed, Or.inr ⟨_, rfl⟩⟩, rfl⟩
    | cons id rest =>
      rw [MergeCall.advance]
      split
      · exact ⟨rfl, ⟨draft, row, inserts, keyed, Or.inl ⟨_, rfl⟩⟩, rfl⟩
      · refine ⟨rfl, ⟨_, row, ?_, keyed, Or.inl ⟨rest, rfl⟩⟩, rfl⟩
        exact inserts
  · right
    refine ⟨rfl, ?_⟩
    by_cases taken : draft.Conflicts db
    · left
      rw [MergeCall.advance, if_pos taken]
    · right
      rw [MergeCall.advance, if_neg taken]
      constructor
      · rintro ⟨stored, isStored, same⟩
        apply taken
        left
        rw [inserts, PersonWrite.taken, keyed, Option.isSome_iff_ne_none]
        intro absent
        exact get_none_iff.mp absent stored isStored same
      · refine ⟨row, ?_, keyed⟩
        simp [Draft.commit, inserts]

/-- Stored people stay stored, whichever turn a call takes. -/
theorem Known.advance (known : Known db email) :
    Known (call.advance plugin merge db).1 email := by
  cases call with
  | waiting => exact known
  | reading draft unread =>
    cases unread with
    | nil => exact known
    | cons id rest =>
      rw [MergeCall.advance]
      split
      · exact known
      · exact known
  | merged draft person =>
    rw [MergeCall.advance]
    split
    · exact known
    · obtain ⟨row, stored, keyed⟩ := known
      cases writes : draft.person with
      | insert new => exact ⟨row, by simp [Draft.commit, writes, stored], keyed⟩
      | keep existing => exact ⟨row, by simp [Draft.commit, writes, stored], keyed⟩
      | update new =>
        by_cases same : row.email = new.email
        · refine ⟨new, ?_, same.symm.trans keyed⟩
          rw [Draft.commit, writes]
          exact mem_put_self
        · refine ⟨row, ?_, keyed⟩
          rw [Draft.commit, writes]
          exact mem_put_other stored same
  | returned person => exact known
  | raised => exact known

/-- One of the calls has raised, or will. -/
def Race.Doomed (email : Text) (state : Race) : Prop :=
  ∃ worker, state.call worker = .raised ∨ (state.call worker).Inserting email ∧
    (Known state.db email ∨ (state.call worker.other).Inserting email)

/-- A turn does not undo it: the call that is to insert a stored person still has its commit before
it. -/
theorem Race.Doomed.step (doomed : state.Doomed email) (turned : Worker) :
    (raceStep plugin merges state turned).Doomed email := by
  obtain ⟨worker, raised | ⟨inserting, rest⟩⟩ := doomed
  · refine ⟨worker, Or.inl ?_⟩
    by_cases same : worker = turned
    · subst same
      rw [raceStep_own, raised, MergeCall.advance]
    · rw [raceStep_other _ _ _ same, raised]
  · by_cases same : turned = worker
    · subst same
      have others := raceStep_other plugin merges state turned.other_ne
      rcases inserting.advance plugin (merges turned) state.db with
        ⟨tables, still, _⟩ | ⟨_, raised | ⟨absent, known⟩⟩
      · refine ⟨turned, Or.inr ⟨raceStep_own ▸ still, ?_⟩⟩
        rwa [others, raceStep, tables]
      · exact ⟨turned, Or.inl (raceStep_own.trans raised)⟩
      · have other := rest.resolve_left absent
        exact ⟨turned.other, Or.inr ⟨others ▸ other, Or.inl known⟩⟩
    · obtain rfl := Worker.eq_other same
      have kept := raceStep_other plugin merges state (Ne.symm same)
      rcases rest with known | other
      · exact ⟨worker, Or.inr ⟨kept ▸ inserting, Or.inl known.advance⟩⟩
      · rcases other.advance plugin (merges worker.other) state.db with
          ⟨_, still, _⟩ | ⟨_, raised | ⟨_, known⟩⟩
        · exact ⟨worker, Or.inr ⟨kept ▸ inserting, Or.inr (raceStep_own ▸ still)⟩⟩
        · exact ⟨worker.other, Or.inl (raceStep_own.trans raised)⟩
        · exact ⟨worker, Or.inr ⟨kept ▸ inserting, Or.inl known⟩⟩

/-- However the schedule goes on, one of the calls will have raised. -/
theorem Race.Doomed.run (doomed : state.Doomed email) (schedule : List Worker) :
    (run (raceStep plugin merges) state schedule).Doomed email := by
  have always : Guarded (raceStep plugin merges) (fun _ _ => True) state schedule :=
    guarded_of_forall (fun _ _ => trivial) state schedule
  exact invariant_run (fun _ turned doomed _ => doomed.step turned) state schedule doomed always

/-- A doomed run is no serial one, in which both calls return. -/
theorem Race.Doomed.not_serializable (doomed : state.Doomed email) :
    ¬ Serializable plugin merges db state := by
  rintro ⟨earlier, _, firstReturned, secondReturned⟩
  have returned : ∀ worker, ∃ person, state.call worker = .returned person := by
    intro worker
    by_cases same : worker = earlier
    · exact ⟨_, same ▸ firstReturned⟩
    · exact ⟨_, Worker.eq_other same ▸ secondReturned⟩
  obtain ⟨worker, raised | ⟨inserting, _⟩⟩ := doomed
  · obtain ⟨person, isReturned⟩ := returned worker
    rw [raised] at isReturned
    exact MergeCall.noConfusion isReturned
  · obtain ⟨person, isReturned⟩ := returned worker
    rw [isReturned] at inserting
    obtain ⟨_, _, _, _, ⟨_, isReading⟩ | ⟨_, isMerged⟩⟩ := inserting
    · exact MergeCall.noConfusion isReading
    · exact MergeCall.noConfusion isMerged

/-- A call for a new email that took some of its turns, but not all, is to insert the person, and
has changed nothing yet. -/
theorem partial_inserting (plugin : LookupPlugin) (absent : ¬ Known db merge.fragment.email)
    (turns : Nat) (unfinished : turns + 1 < merge.turns) :
    ((turn plugin merge)^[turns + 1] (db, .waiting)).1 = db ∧
      ((turn plugin merge)^[turns + 1] (db, .waiting)).2.Inserting merge.fragment.email ∧
      ((turn plugin merge)^[turns + 1] (db, .waiting)).2.left merge + (turns + 1) =
        merge.turns := by
  induction turns with
  | zero => exact ⟨rfl, waiting_inserting plugin absent, rfl⟩
  | succ turns inductionHypothesis =>
    obtain ⟨tables, inserting, left⟩ := inductionHypothesis (by omega)
    rw [Function.iterate_succ_apply', turn, tables]
    rcases inserting.advance plugin merge db with
      ⟨unchanged, still, next⟩ | ⟨last, _⟩
    · exact ⟨unchanged, still, by omega⟩
    · omega

/-- Where the second call starts while the first is under way, both have read that there is no such
person. Whichever commits first makes the other raise. -/
theorem overlap_doomed (plugin : LookupPlugin) (absent : ¬ Known db email)
    (sameEmail : ∀ worker, (merges worker).fragment.email = email) (turns : Nat)
    (unfinished : turns + 1 < (merges worker).turns) :
    (run (raceStep plugin merges) (.start db)
      (List.replicate (turns + 1) worker ++ [worker.other])).Doomed email := by
  have absentFirst : ¬ Known db (merges worker).fragment.email := by rwa [sameEmail worker]
  obtain ⟨tables, own, others⟩ := run_replicate plugin merges (.start db) (turns + 1) worker
  obtain ⟨unchanged, inserting, _⟩ := partial_inserting plugin absentFirst turns unfinished
  rw [run_append, run_cons, run_nil]
  generalize run (raceStep plugin merges) (.start db) (List.replicate (turns + 1) worker) =
    state at tables own others
  have stillAbsent : ¬ Known state.db (merges worker.other).fragment.email := by
    rw [tables, sameEmail worker.other]
    exact unchanged.symm ▸ absent
  refine ⟨worker, Or.inr ⟨?_, Or.inr ?_⟩⟩
  · rw [raceStep_other _ _ _ (Ne.symm worker.other_ne), own, ← sameEmail worker]
    exact inserting
  · rw [raceStep_own, others, ← sameEmail worker.other]
    exact waiting_inserting plugin stillAbsent

/-- The turns that a worker takes before the other one takes its first. -/
theorem leading_turns (worker : Worker) (schedule : List Worker) :
    ∃ turns rest, schedule = List.replicate turns worker ++ rest ∧
      ∀ next ∈ rest.head?, next = worker.other := by
  induction schedule with
  | nil => exact ⟨0, [], rfl, by simp⟩
  | cons next rest inductionHypothesis =>
    by_cases same : next = worker
    · subst same
      obtain ⟨turns, later, rfl, others⟩ := inductionHypothesis
      exact ⟨turns + 1, later, rfl, others⟩
    · refine ⟨0, next :: rest, rfl, ?_⟩
      simpa using Worker.eq_other same

/-- A complete schedule runs one call after the other, or starts the second one while the first is
under way. The worker that moves first and the number of its leading turns decide which. -/
theorem apart_or_overlap {schedule : List Worker} (complete : Complete merges schedule) :
    Apart merges schedule ∨ ∃ worker turns rest, turns + 1 < (merges worker).turns ∧
      schedule = List.replicate (turns + 1) worker ++ [worker.other] ++ rest := by
  cases schedule with
  | nil =>
    have none := complete .first
    simp [PersonMerge.turns] at none
  | cons worker tail =>
    obtain ⟨turns, rest, rfl, others⟩ := leading_turns worker tail
    have own := complete worker
    have other := complete worker.other
    rw [← List.cons_append, ← List.replicate_succ] at own other ⊢
    rw [List.count_append, List.count_replicate_self] at own
    rw [List.count_append, List.count_replicate, 
      if_neg (by simpa using Ne.symm worker.other_ne)] at other
    rcases Nat.lt_or_ge (turns + 1) (merges worker).turns with unfinished | finished
    · right
      cases rest with
      | nil => simp at own; omega
      | cons next rest =>
        obtain rfl := others next rfl
        exact ⟨worker, turns, rest, unfinished, by simp⟩
    · left
      have done : rest.count worker = 0 := by omega
      have isOther : ∀ next ∈ rest, next = worker.other := by
        intro next isNext
        apply Worker.eq_other
        rintro rfl
        exact List.count_eq_zero.mp done isNext
      have replicated := List.eq_replicate_of_mem isOther
      rw [replicated, List.count_replicate_self, Nat.zero_add] at other
      refine ⟨worker, ?_⟩
      rw [← other, ← replicated]
      congr 2
      omega

/-- A merge of a new person stores one row for it. -/
theorem oneRow_mergeStep (absent : ¬ Known db merge.fragment.email) :
    OneRow merge.fragment.email (mergeStep db merge) := by
  have isNew : ∀ row ∈ (mergeStep db merge).people, row.email = merge.fragment.email →
      row = mergedRow merge.now merge.fragment
        (get SchemaPerson.email merge.fragment.email db.people) := by
    intro row stored keyed
    rcases mem_put stored with new | ⟨old, _⟩
    · exact new
    · exact absurd ⟨row, old, keyed⟩ absent
  intro first isFirst second isSecond keyedFirst keyedSecond
  rw [isNew first isFirst keyedFirst, isNew second isSecond keyedSecond]

/-- One call after the other leaves what the two merges leave in that order: the first meets the
tables as they were, and the second those that the first left. -/
theorem apart_serializable (plugin : LookupPlugin) (absent : ¬ Known db email)
    (sameEmail : ∀ worker, (merges worker).fragment.email = email)
    {schedule : List Worker} (apart : Apart merges schedule) :
    Serializable plugin merges db (run (raceStep plugin merges) (.start db) schedule) := by
  obtain ⟨earlier, rfl⟩ := apart
  rw [run_append]
  obtain ⟨tables, own, others⟩ :=
    run_replicate plugin merges (.start db) (merges earlier).turns earlier
  generalize run (raceStep plugin merges) (.start db)
    (List.replicate (merges earlier).turns earlier) = state at tables own others ⊢
  have absentFirst : ¬ Known db (merges earlier).fragment.email := by rwa [sameEmail earlier]
  have oneRow : OneRow (merges earlier).fragment.email db :=
    fun first isFirst _ _ keyed _ => absurd ⟨first, isFirst, keyed⟩ absentFirst
  have first := alone plugin oneRow
  have oneRowThen : OneRow (merges earlier.other).fragment.email
      (mergeStep db (merges earlier)) := by
    rw [sameEmail earlier.other, ← sameEmail earlier]
    exact oneRow_mergeStep absentFirst
  have second := alone plugin oneRowThen
  have firstTables : state.db = mergeStep db (merges earlier) :=
    tables.trans (congrArg Prod.fst first)
  have secondWaits : state.call earlier.other = .waiting := others
  obtain ⟨tablesThen, ownThen, othersThen⟩ :=
    run_replicate plugin merges state (merges earlier.other).turns earlier.other
  rw [firstTables, secondWaits, second] at tablesThen ownThen
  refine ⟨earlier, tablesThen, ?_, ownThen⟩
  rw [Worker.other_other] at othersThen
  exact othersThen.trans (own.trans (congrArg Prod.snd first))

/-- Two calls for one new email leave the tables of a serial run and both return, exactly if the
first read of one comes after the commit of the other.

Proof: a complete schedule has the calls apart or starts one while the other is under way. In the
second case both have read that the person is not stored, so one of them raises and no serial run
explains it. In the first case each call runs alone and does what the one-step merge says. -/
theorem merge_race_iff (plugin : LookupPlugin) (merges : Worker → PersonMerge)
    (db : IdentityDb) (email : Text) (absent : ¬ Known db email)
    (sameEmail : ∀ worker, (merges worker).fragment.email = email)
    (schedule : List Worker) (complete : Complete merges schedule) :
    Serializable plugin merges db (run (raceStep plugin merges) (.start db) schedule) ↔
      Apart merges schedule := by
  constructor
  · intro serializable
    rcases apart_or_overlap complete with apart | ⟨worker, turns, rest, unfinished, rfl⟩
    · exact apart
    · rw [run_append] at serializable
      have doomed := overlap_doomed plugin absent sameEmail turns unfinished
      exact absurd serializable (doomed.run rest).not_serializable
  · exact apart_serializable plugin absent sameEmail

section Example

/-- Both workers meet the same person of a chat. -/
def chatMerges (worker : Worker) : PersonMerge where
  now := match worker with | .first => 0 | .second => 1
  fragment :=
    { email := "alice@example.com".toList, displayName := some "Alice".toList
      platformIds := [("webex".toList, "Y2lzY29".toList)], sourcePlugin := "webex".toList }
  dictionary := List.nodup_singleton _

/-- The second call reads before the first commits, and raises, so the schedule is not a serial
run. -/
theorem overlapping_merge_raises :
    Complete chatMerges
        [.first, .second, .first, .second, .first, .second, .first, .second] ∧
      ¬ Serializable storedOrderPlugin chatMerges .empty
        (run (raceStep storedOrderPlugin chatMerges) (.start .empty)
          [.first, .second, .first, .second, .first, .second, .first, .second]) := by
  constructor
  · intro worker
    cases worker <;> decide
  · have raised : (run (raceStep storedOrderPlugin chatMerges) (.start .empty)
        [.first, .second, .first, .second, .first, .second, .first, .second]).call .second =
          .raised := rfl
    rintro ⟨earlier, _, firstReturned, secondReturned⟩
    cases earlier with
    | first => exact MergeCall.noConfusion (raised.symm.trans secondReturned)
    | second => exact MergeCall.noConfusion (raised.symm.trans firstReturned)

/-- One call after the other is a serial run, here with the second worker first. -/
theorem apart_merges_serial :
    Serializable storedOrderPlugin chatMerges .empty
      (run (raceStep storedOrderPlugin chatMerges) (.start .empty)
        [.second, .second, .second, .second, .first, .first, .first, .first]) := by
  apply (merge_race_iff storedOrderPlugin chatMerges .empty "alice@example.com".toList
    (by simp [Known, IdentityDb.empty]) (by intro worker; cases worker <;> rfl) _
    (by intro worker; cases worker <;> decide)).mpr
  exact ⟨.second, rfl⟩

end Example

end Thaum.Lookup
