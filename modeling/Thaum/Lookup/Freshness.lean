import Thaum.Library.GuardedRuns
import Thaum.Jira.Teams
import Thaum.Lookup.Atlassian

/-!
# Fresh teams and their fetches

The team cache is written by the Atlassian preload, by the team list of each Jira
plugin, by `cache_team` itself and by the refresh of a team's members; teams are
handed out by name, by id, by responder references and by the refresh. A run is
any sequence of these, with a record of every fetch added to the state.

A team handed out as fresh should have the members some fetch returned at most
one lifetime ago, up to the time a refresh takes from its fetch to its stamp. The
writers that break this are the Jira team list, which stores teams without
members as cached now, and a reference to an unknown team id; the preload stores
stale teams, but forgets the members that were stored.
-/

namespace Thaum.Lookup.Freshness

open PyText PyJson PyRequests KeyedRows GuardedRuns Jira

/-- A call of `fetch_team_members` that returned. -/
structure Fetch where
  teamName : Text
  fetchedAt : Nat
  emails : List Text
deriving DecidableEq

/-- The record a refresh adds. -/
def Fetch.of (team : ThaumTeam) (fetchedAt : Nat) (fetched : List ThaumPerson) : Fetch :=
  { teamName := team.teamName, fetchedAt, emails := fetched.map ThaumPerson.email }

/-- The tables, the team dictionaries of the Jira plugin instances, the fetches made
so far and the time of the last operation. -/
structure State where
  db : IdentityDb
  names : Nat → TeamNames
  fetches : List Fetch
  clock : Nat

/-- One operation, at its clock reading. -/
inductive Event where
  | preloadTeamsCache : (responses : List Response) → (commits : Text → Bool) → (now : Nat) → Event
  | refreshTeamCache : (jira : Nat) → (response : Response) → (commits : Text → Bool) →
      (now : Nat) → Event
  | cacheTeam : (team : ThaumTeam) → (platform : Option (Text × Text)) → (commits : Bool) →
      (now : Nat) → Event
  | lookupTeamMembers : (team : ThaumTeam) → (fetched : List ThaumPerson) → (fetchedAt : Nat) →
      (faults : Faults) → (now : Nat) → Event
  | getTeamByName : (teamName : Text) → (now : Nat) → Event
  | getTeamById : (botPluginName teamId : Text) → (now : Nat) → Event
  | resolveResponderRefs : (sourcePlugin : Text) → (normalize : Text → Text) →
      (refs : List Text) → (now : Nat) → Event

/-- The clock reading of an operation. -/
def Event.now : Event → Nat
  | .preloadTeamsCache _ _ now => now
  | .refreshTeamCache _ _ _ now => now
  | .cacheTeam _ _ _ now => now
  | .lookupTeamMembers _ _ _ _ now => now
  | .getTeamByName _ now => now
  | .getTeamById _ _ now => now
  | .resolveResponderRefs _ _ _ now => now

variable (rendering : Rendering) (plugin : LookupPlugin)

/-- The state after an operation, with the fetch of a refresh added to the record. -/
def step (state : State) : Event → State
  | .preloadTeamsCache responses commits now =>
    { state with
      db := Atlassian.preloadTeamsCache rendering plugin commits responses state.db, clock := now }
  | .refreshTeamCache jira response commits now =>
    match refreshTeamCache rendering (some plugin) now commits response (state.names jira)
        state.db with
    | none => { state with clock := now }
    | some (names, db) =>
      { state with
        db, names := fun other => if other = jira then names else state.names other, clock := now }
  | .cacheTeam team platform commits now =>
    { state with
      db := (cacheTeam plugin team platform commits state.db).getD state.db, clock := now }
  | .lookupTeamMembers team fetched fetchedAt faults now =>
    { state with
      db := (lookupTeamMembers plugin faults now fetched team state.db).db
      fetches := state.fetches ++ [Fetch.of team fetchedAt fetched]
      clock := now }
  | .getTeamByName _ now | .getTeamById _ _ now | .resolveResponderRefs _ _ _ now =>
    { state with clock := now }

/-- The teams an operation hands out. -/
def handedOut (state : State) : Event → List ThaumTeam
  | .lookupTeamMembers team fetched _ faults now =>
    [(lookupTeamMembers plugin faults now fetched team state.db).team]
  | .getTeamByName teamName _ => (getTeamByName plugin state.db teamName).toList
  | .getTeamById botPluginName teamId _ =>
    (getTeamById plugin state.db botPluginName teamId).toList
  | .resolveResponderRefs sourcePlugin normalize refs now =>
    (resolveResponderRefs plugin sourcePlugin normalize now state.db refs).teams
  | _ => []

/-- The fetch is of the team, returned these members, and was at most `delay` before
they were stamped. -/
def Fetch.Backs (delay : Nat) (team : ThaumTeam) (fetch : Fetch) : Prop :=
  fetch.teamName = team.teamName ∧ team.lastCached ≤ fetch.fetchedAt + delay ∧
    ∀ email, email ∈ team.emails ↔ email ∈ fetch.emails

/-- Where the team is fresh at the reading, its members are those of a fetch made at
most one lifetime, and the delay of its stamp, before. -/
def FetchedIfFresh (delay : Nat) (fetches : List Fetch) (team : ThaumTeam) (reading : Nat) : Prop :=
  team.isFresh reading = true → ∃ fetch ∈ fetches, fetch.teamName = team.teamName ∧
    (reading : Int) ≤ fetch.fetchedAt + team.ttl * 1000000 + delay ∧
    ∀ email, email ∈ team.emails ↔ email ∈ fetch.emails

/-- The operation stores what is known of teams apart from their members. -/
def StoresMetadata : Event → Prop
  | .preloadTeamsCache .. | .refreshTeamCache .. => True
  | .cacheTeam team _ _ _ => team.members = []
  | _ => False

/-- The teams a preload stores. -/
def preloaded (responses : List Response) : List (Text × Text) :=
  (Atlassian.iterTeamPages responses).flatten.filterMap (Atlassian.preloadedTeam rendering)

/-- The teams a refresh of the Jira team list would store. -/
def refreshed (response : Response) (names : TeamNames) : List (Text × Text) :=
  if names.nameByFolded ≠ [] then []
  else ((response.json?.map listedTeams).getD []).filterMap (listedTeam rendering)

/-- No member is stored for the team. -/
def Memberless (db : IdentityDb) (teamName : Text) : Prop :=
  ∀ member ∈ db.teamMembers, member.teamName ≠ teamName

/-- The id of a reference `id:team:<id>`, blank for the other references. -/
def teamIdOfRef (raw : Text) : Text :=
  let ref := strip raw
  if startsWith (lower ref) "id:team:".toList then strip (ref.drop 8) else []

/-- What keeps the cache coherent: operations in the order of their readings, after
the first four hours of the epoch; refreshes stamped within the delay whose
members are all merged; a preload only of teams without stored members; a Jira
team list that stores nothing; team ids that are known; and of `cache_team` that
it stores stale teams, or teams with fetched members it knows. -/
def Allowed (delay : Nat) (state : State) (event : Event) : Prop :=
  state.clock ≤ event.now ∧
  match event with
  | .preloadTeamsCache responses commits now => defaultTtl * 1000000 ≤ (now : Int) ∧
      ∀ team ∈ preloaded rendering responses, commits team.1 = true → Memberless state.db team.1
  | .refreshTeamCache jira response commits _ =>
      ∀ team ∈ refreshed rendering response (state.names jira), commits team.1 = false
  | .cacheTeam team _ commits now => commits = true → insertable plugin team state.db = true →
      (team.members = [] → Memberless state.db team.teamName) ∧
      ((now : Int) ≥ team.lastCached + storedTtl plugin team * 1000000 ∨
        (∃ fetch ∈ state.fetches, fetch.Backs delay team) ∧
          ∀ email ∈ team.emails, Known state.db email)
  | .lookupTeamMembers _ fetched fetchedAt faults now =>
      now ≤ fetchedAt + delay ∧
      (faults.cacheCommits = true → plugin.enforcesForeignKeys = true ∨
        ∀ member ∈ fetched, faults.mergeRaises member = false)
  | .getTeamByName .. | .getTeamById .. => True
  | .resolveResponderRefs _ _ refs _ => ∀ raw ∈ refs, teamIdOfRef raw ≠ [] →
      (getTeamById plugin state.db "jira".toList (teamIdOfRef raw)).isSome = true

/-- The stored members of the row's team are those of a fetch that covers its stamp,
and each has a person row. -/
def FetchedRow (delay : Nat) (db : IdentityDb) (fetches : List Fetch) (row : SchemaTeam) : Prop :=
  ∃ fetch ∈ fetches, fetch.teamName = row.teamName ∧ row.lastCached ≤ fetch.fetchedAt + delay ∧
    (∀ email, { teamName := row.teamName, email : SchemaTeamMember } ∈ db.teamMembers ↔
      email ∈ fetch.emails) ∧
    ∀ email ∈ fetch.emails, Known db email

/-- Every stored team is stale for good, or its members were fetched for its stamp. -/
def Sound (delay : Nat) (db : IdentityDb) (fetches : List Fetch) (clock : Nat) : Prop :=
  ∀ row ∈ db.teams, row.lastCached + row.ttl * 1000000 ≤ (clock : Int) ∨
    FetchedRow delay db fetches row

variable {rendering plugin} {delay clock now : Nat} {db : IdentityDb} {fetches : List Fetch}
  {team : ThaumTeam} {state : State} {event : Event}

/-- A sound cache stays sound as time passes: a stale team stays stale. -/
theorem sound_later (sound : Sound delay db fetches clock) (later : clock ≤ now) :
    Sound delay db fetches now := by
  intro row stored
  rcases sound row stored with stale | fetched
  · exact Or.inl (by omega)
  · exact Or.inr fetched

/-- Another fetch on the record takes nothing from those that vouch for the stored teams. -/
theorem sound_more_fetches {fetch : Fetch} (sound : Sound delay db fetches clock) :
    Sound delay db (fetches ++ [fetch]) clock := by
  intro row stored
  rcases sound row stored with stale | ⟨covering, member, rest⟩
  · exact Or.inl stale
  · exact Or.inr ⟨covering, List.mem_append_left _ member, rest⟩

/-- A change of the people tables that forgets nobody keeps the teams sound, since members are
stored by email and only need a person row. -/
theorem sound_people {after : IdentityDb} (sound : Sound delay db fetches clock)
    (teams : after.teams = db.teams) (members : after.teamMembers = db.teamMembers)
    (known : ∀ email, Known db email → Known after email) : Sound delay after fetches clock := by
  intro row stored
  rw [teams] at stored
  rcases sound row stored with stale | ⟨fetch, member, named, stamped, same, knows⟩
  · exact Or.inl stale
  · exact Or.inr ⟨fetch, member, named, stamped, members ▸ same,
      fun email listed => known email (knows email listed)⟩

/-- Caching a team that is stale, or whose members were fetched for its stamp, keeps the cache
sound. Every other team keeps its own members. -/
theorem sound_cached {platform : Option (Text × Text)} (sound : Sound delay db fetches clock)
    (later : clock ≤ now)
    (backed : (now : Int) ≥ team.lastCached + storedTtl plugin team * 1000000 ∨
      (∃ fetch ∈ fetches, fetch.Backs delay team) ∧ ∀ email ∈ team.emails, Known db email) :
    Sound delay (cachedTeamDb plugin team platform db) fetches now := by
  intro row stored
  rcases mem_put stored with rfl | ⟨old, different⟩
  · rcases backed with stale | ⟨⟨fetch, member, named, stamped, same⟩, known⟩
    · exact Or.inl stale
    · refine Or.inr ⟨fetch, member, named, stamped, fun email => ?_,
        fun email listed => known email ((same email).mpr listed)⟩
      rw [mem_cached_members, if_pos rfl]
      exact same email
  · rcases sound_later sound later row old with stale | ⟨fetch, member, named, stamped, same, knows⟩
    · exact Or.inl stale
    · refine Or.inr ⟨fetch, member, named, stamped, fun email => ?_, knows⟩
      rw [mem_cached_members, if_neg different]
      exact same email

/-- A team read from a sound cache has fetched members while it is fresh. Reading joins the member
rows with the people, and none is missing. -/
theorem readTeam_fetched {row : SchemaTeam} (sound : Sound delay db fetches clock)
    (stored : row ∈ db.teams) {reading : Nat} (later : clock ≤ reading) :
    FetchedIfFresh delay fetches (readTeam plugin db row) reading := by
  intro fresh
  have live : (reading : Int) - row.lastCached < row.ttl * 1000000 := of_decide_eq_true fresh
  rcases sound row stored with stale | ⟨fetch, member, named, stamped, same, knows⟩
  · omega
  · have timely : (reading : Int) ≤ fetch.fetchedAt + row.ttl * 1000000 + delay := by omega
    have known : ∀ member ∈ db.teamMembers, member.teamName = row.teamName →
        Known db member.email := by
      rintro ⟨name, email⟩ listed rfl
      exact knows email ((same email).mp listed)
    refine ⟨fetch, member, named, timely, fun email => ?_⟩
    exact (mem_readTeam_emails known).trans (same email)

/-- A team that is found is stored. -/
theorem findTeam_mem {teamName : Text} {row : SchemaTeam}
    (found : findTeam plugin db teamName = some row) : row ∈ db.teams := by
  unfold findTeam at found
  split at found
  · rename_i exact_row
    exact Option.some.inj found ▸ (get_some exact_row).1
  · dsimp only at found
    split at found
    · simp at found
    · exact (get_some found).1

/-- A team handed out by name has fetched members while it is fresh. -/
theorem getTeamByName_fetched {teamName : Text} (sound : Sound delay db fetches clock)
    (found : getTeamByName plugin db teamName = some team) {reading : Nat}
    (later : clock ≤ reading) : FetchedIfFresh delay fetches team reading := by
  obtain ⟨row, read, rfl⟩ := Option.map_eq_some_iff.mp found
  exact readTeam_fetched sound (findTeam_mem read) later

/-- A team handed out by id was found by the name its id is mapped to. -/
theorem getTeamById_named {botPluginName teamId : Text}
    (found : getTeamById plugin db botPluginName teamId = some team) :
    ∃ teamName, getTeamByName plugin db teamName = some team := by
  unfold getTeamById at found
  split at found
  · simp at found
  · split at found
    · simp at found
    · exact ⟨_, found⟩

/-- A reference by name adds at most the team of that name. -/
theorem addTeamByName_teams {out : RespondersList} {teamName : Text}
    (listed : team ∈ (addTeamByName plugin db out teamName).teams) :
    team ∈ out.teams ∨ ∃ teamName, getTeamByName plugin db teamName = some team := by
  unfold addTeamByName at listed
  split at listed
  · exact Or.inl listed
  · split at listed
    · rename_i found
      rcases List.mem_append.mp listed with old | new
      · exact Or.inl old
      · exact Or.inr ⟨teamName, List.mem_singleton.mp new ▸ found⟩
    · exact Or.inl listed

/-- What one reference adds: a team found by name or id, or one made up for an id that is not known.
The made-up team is stamped as cached now and has no members. -/
theorem resolveResponderRef_teams {sourcePlugin : Text} {normalize : Text → Text}
    {out : RespondersList} {raw : Text}
    (listed : team ∈ (resolveResponderRef plugin sourcePlugin normalize now db out raw).teams) :
    team ∈ out.teams ∨ (∃ teamName, getTeamByName plugin db teamName = some team) ∨
      (∃ found, getTeamById plugin db "jira".toList (teamIdOfRef raw) = some found ∧
        team = { found with alertId := some (teamIdOfRef raw) }) ∨
      (teamIdOfRef raw ≠ [] ∧ getTeamById plugin db "jira".toList (teamIdOfRef raw) = none) := by
  unfold resolveResponderRef at listed
  dsimp only [teamIdOfRef] at listed ⊢
  split at listed
  · exact Or.inl listed
  split at listed
  · split at listed
    · exact Or.inl listed
    · exact Or.inl listed
  split at listed
  · rcases addTeamByName_teams listed with old | found
    · exact Or.inl old
    · exact Or.inr (Or.inl found)
  split at listed
  · rename_i isTeamId
    rw [if_pos isTeamId]
    split at listed
    · exact Or.inl listed
    · rename_i nonblank
      split at listed
      · rename_i found
        rcases List.mem_append.mp listed with old | new
        · exact Or.inl old
        · exact Or.inr (Or.inr (Or.inl ⟨_, found, List.mem_singleton.mp new⟩))
      · rename_i unknown
        exact Or.inr (Or.inr (Or.inr ⟨nonblank, unknown⟩))
  split at listed
  · split at listed
    · exact Or.inl listed
    · exact Or.inl listed
  split at listed
  · exact Or.inl listed
  · rcases addTeamByName_teams listed with old | found
    · exact Or.inl old
    · exact Or.inr (Or.inl found)

/-- Of references without unknown team ids, every resolved team was found. The induction is on the
references, with what is listed so far carried along. -/
theorem resolveResponderRefs_fetched {sourcePlugin : Text} {normalize : Text → Text}
    {refs : List Text} (sound : Sound delay db fetches clock)
    (known : ∀ raw ∈ refs, teamIdOfRef raw ≠ [] →
      (getTeamById plugin db "jira".toList (teamIdOfRef raw)).isSome = true)
    {reading : Nat} (later : clock ≤ reading) :
    ∀ team ∈ (resolveResponderRefs plugin sourcePlugin normalize now db refs).teams,
      FetchedIfFresh delay fetches team reading := by
  have fold (out : RespondersList)
      (sofar : ∀ team ∈ out.teams, FetchedIfFresh delay fetches team reading) :
      ∀ team ∈ (refs.foldl (resolveResponderRef plugin sourcePlugin normalize now db) out).teams,
        FetchedIfFresh delay fetches team reading := by
    induction refs generalizing out with
    | nil => exact sofar
    | cons raw rest inductionHypothesis =>
      obtain ⟨here, others⟩ := List.forall_mem_cons.mp known
      apply inductionHypothesis others _
      intro team listed
      rcases resolveResponderRef_teams listed with old | ⟨name, found⟩ | ⟨base, found, rfl⟩ |
        ⟨nonblank, unknown⟩
      · exact sofar team old
      · exact getTeamByName_fetched sound found later
      · obtain ⟨name, byName⟩ := getTeamById_named found
        exact getTeamByName_fetched sound byName later
      · have absent := here nonblank
        rw [unknown] at absent
        exact absurd absent Bool.false_ne_true
  exact fold _ (by simp)

/-- The stale teams a preload stores keep the cache sound: they are stamped at the epoch, which is
more than a lifetime ago. -/
theorem sound_preload {commits : Text → Bool} (teams : List (Text × Text))
    (past : defaultTtl * 1000000 ≤ (now : Int)) (sound : Sound delay db fetches now) :
    Sound delay (teams.foldl (Atlassian.cachePreloadedTeam plugin commits) db) fetches now := by
  induction teams generalizing db with
  | nil => exact sound
  | cons team rest inductionHypothesis =>
    apply inductionHypothesis
    unfold Atlassian.cachePreloadedTeam
    cases cached : cacheTeam plugin (.ofId team.1 team.2 0) (some ("jira".toList, team.2))
        (commits team.1) db with
    | none => exact sound
    | some after =>
      obtain ⟨_, _, rfl⟩ := cacheTeam_some cached
      rw [Option.getD_some]
      refine sound_cached sound le_rfl (Or.inl ?_)
      rw [storedTtl_ofId]
      simpa [ThaumTeam.ofId] using past

/-- Storing a team without members where none are stored changes no member row. -/
theorem cached_memberless (plugin : LookupPlugin) (platform : Option (Text × Text))
    (memberless : team.members = [])
    (none_stored : Memberless db team.teamName) :
    (cachedTeamDb plugin team platform db).teamMembers = db.teamMembers := by
  simp only [cachedTeamDb, memberRows, memberless, List.map_nil, List.append_nil]
  exact List.filter_eq_self.mpr fun member stored => bne_iff_ne.mpr (none_stored member stored)

/-- A preload of teams without stored members changes no member row, by induction on the teams. -/
theorem preload_members {commits : Text → Bool} (teams : List (Text × Text))
    (memberless : ∀ team ∈ teams, commits team.1 = true → Memberless db team.1) :
    (teams.foldl (Atlassian.cachePreloadedTeam plugin commits) db).teamMembers =
      db.teamMembers := by
  induction teams generalizing db with
  | nil => rfl
  | cons team rest inductionHypothesis =>
    obtain ⟨here, others⟩ := List.forall_mem_cons.mp memberless
    have unchanged : (Atlassian.cachePreloadedTeam plugin commits db team).teamMembers =
        db.teamMembers := by
      unfold Atlassian.cachePreloadedTeam
      cases cached : cacheTeam plugin (.ofId team.1 team.2 0) (some ("jira".toList, team.2))
          (commits team.1) db with
      | none => rfl
      | some after =>
        obtain ⟨committed, _, rfl⟩ := cacheTeam_some cached
        rw [Option.getD_some]
        exact cached_memberless plugin _ rfl (here committed)
    rw [List.foldl_cons, inductionHypothesis, unchanged]
    intro other later committed
    rw [Memberless, unchanged]
    exact others other later committed

/-- A team list of which nothing is committed leaves the tables alone. -/
theorem refresh_uncommitted {response : Response} {commits : Text → Bool}
    {names after : TeamNames} {dbAfter : IdentityDb}
    (uncommitted : ∀ team ∈ refreshed rendering response names, commits team.1 = false)
    (refreshes : refreshTeamCache rendering (some plugin) now commits response names db =
      some (after, dbAfter)) : dbAfter = db := by
  unfold refreshTeamCache at refreshes
  split at refreshes
  · exact (Prod.mk.inj (Option.some.inj refreshes)).2.symm
  · rename_i unnamed
    split at refreshes
    · simp at refreshes
    · rename_i payload body
      rw [refreshed, if_neg unnamed, body] at uncommitted
      rw [← (Prod.mk.inj (Option.some.inj refreshes)).2]
      refine List.foldlRecOn _ _ (motive := fun after => after = db) rfl
        fun after unchanged team listed => ?_
      rw [unchanged]
      simp only [cacheListedTeam, cacheTeam, uncommitted team listed, Bool.false_and,
        Bool.false_eq_true, if_false, Option.getD_none]

variable {fetched : List ThaumPerson} {fetchedAt : Nat} {faults : Faults}

/-- The team a refresh hands out has the members just fetched while it is fresh. -/
theorem lookupTeamMembers_fetched (quick : now ≤ fetchedAt + delay) {reading : Nat} :
    FetchedIfFresh delay (fetches ++ [Fetch.of team fetchedAt fetched])
      (lookupTeamMembers plugin faults now fetched team db).team reading := by
  intro fresh
  obtain ⟨named, stamped, _, emails⟩ := lookupTeamMembers_team plugin faults now fetched team db
  have live := of_decide_eq_true fresh
  rw [stamped] at live
  refine ⟨_, List.mem_append_right _ List.mem_cons_self, named.symm, ?_, ?_⟩
  · simp only [Fetch.of]
    omega
  · intro email
    rw [emails]
    rfl

/-- A refresh keeps the cache sound: its team has the members just fetched. Where it is not
committed, the tables only gain people. -/
theorem sound_lookup (sound : Sound delay db fetches clock) (later : clock ≤ now)
    (quick : now ≤ fetchedAt + delay)
    (merges : faults.cacheCommits = true → plugin.enforcesForeignKeys = true ∨
      ∀ member ∈ fetched, faults.mergeRaises member = false) :
    Sound delay (lookupTeamMembers plugin faults now fetched team db).db
      (fetches ++ [Fetch.of team fetchedAt fetched]) now := by
  have merged : Sound delay (mergeMembers plugin now faults.mergeRaises fetched db).1 fetches now :=
    sound_people (sound_later sound later) (mergeMembers_frame fetched).1
      (mergeMembers_frame fetched).2 fun _ known => known_mergeMembers fetched known
  unfold lookupTeamMembers mergeTeam
  dsimp only
  split
  · rename_i after cached
    obtain ⟨committed, inserts, rfl⟩ := cacheTeam_some cached
    refine sound_cached (sound_more_fetches merged) le_rfl (Or.inr ⟨⟨_,
      List.mem_append_right _ List.mem_cons_self, rfl, quick, fun email => ?_⟩, ?_⟩)
    · rw [ThaumTeam.emails, mergeMembers_emails]
      rfl
    · intro email listed
      rcases merges committed with enforced | unfailing
      · exact insertable_known inserts enforced email listed
      · rw [ThaumTeam.emails, mergeMembers_emails] at listed
        obtain ⟨member, isMember, rfl⟩ := List.mem_map.mp listed
        exact mergeMembers_known unfailing member isMember
  · exact sound_more_fetches merged

/-- An allowed operation keeps the cache sound, at its reading. This is the step lemma of the run,
one case for each operation. -/
theorem sound_step (sound : Sound delay state.db state.fetches state.clock)
    (allowed : Allowed rendering plugin delay state event) :
    Sound delay (step rendering plugin state event).db (step rendering plugin state event).fetches
      (step rendering plugin state event).clock ∧
    (step rendering plugin state event).clock = event.now := by
  obtain ⟨later, condition⟩ := allowed
  have kept := sound_later sound later
  cases event with
  | preloadTeamsCache responses commits now => exact ⟨sound_preload _ condition.1 kept, rfl⟩
  | refreshTeamCache jira response commits now =>
    simp only [step]
    split
    · exact ⟨kept, rfl⟩
    · rename_i names after refreshes
      rw [refresh_uncommitted condition refreshes]
      exact ⟨kept, rfl⟩
  | cacheTeam team platform commits now =>
    refine ⟨?_, rfl⟩
    simp only [step]
    cases cached : cacheTeam plugin team platform commits state.db with
    | none => exact kept
    | some after =>
      obtain ⟨committed, inserts, rfl⟩ := cacheTeam_some cached
      exact sound_cached kept le_rfl (condition committed inserts).2
  | lookupTeamMembers team fetched fetchedAt faults now =>
    exact ⟨sound_lookup sound later condition.1 condition.2, rfl⟩
  | getTeamByName teamName now => exact ⟨kept, rfl⟩
  | getTeamById botPluginName teamId now => exact ⟨kept, rfl⟩
  | resolveResponderRefs sourcePlugin normalize refs now => exact ⟨kept, rfl⟩

/-- Every team an allowed operation hands out has fetched members while it is fresh, one case for
each operation that hands out teams. -/
theorem handedOut_fetched (sound : Sound delay state.db state.fetches state.clock)
    (allowed : Allowed rendering plugin delay state event) :
    ∀ team ∈ handedOut plugin state event, ∀ reading, event.now ≤ reading →
      FetchedIfFresh delay (step rendering plugin state event).fetches team reading := by
  obtain ⟨later, condition⟩ := allowed
  intro team handed reading after
  have upToDate : state.clock ≤ reading := later.trans after
  cases event with
  | preloadTeamsCache responses commits now => simp [handedOut] at handed
  | refreshTeamCache jira response commits now => simp [handedOut] at handed
  | cacheTeam team platform commits now => simp [handedOut] at handed
  | lookupTeamMembers team fetched fetchedAt faults now =>
    obtain rfl := List.mem_singleton.mp handed
    exact lookupTeamMembers_fetched condition.1
  | getTeamByName teamName now =>
    exact getTeamByName_fetched sound (Option.mem_toList.mp handed) upToDate
  | getTeamById botPluginName teamId now =>
    obtain ⟨teamName, found⟩ := getTeamById_named (Option.mem_toList.mp handed)
    exact getTeamByName_fetched sound found upToDate
  | resolveResponderRefs sourcePlugin normalize refs now =>
    exact resolveResponderRefs_fetched sound condition upToDate team handed

/-- An allowed operation that stores metadata leaves every stored member. -/
theorem metadata_members (allowed : Allowed rendering plugin delay state event)
    (metadata : StoresMetadata event) :
    (step rendering plugin state event).db.teamMembers = state.db.teamMembers := by
  obtain ⟨_, condition⟩ := allowed
  cases event with
  | preloadTeamsCache responses commits now => exact preload_members _ condition.2
  | refreshTeamCache jira response commits now =>
    simp only [step]
    split
    · rfl
    · rename_i names after refreshes
      rw [refresh_uncommitted condition refreshes]
  | cacheTeam team platform commits now =>
    simp only [step]
    cases cached : cacheTeam plugin team platform commits state.db with
    | none => rfl
    | some after =>
      obtain ⟨committed, inserts, rfl⟩ := cacheTeam_some cached
      exact cached_memberless plugin platform metadata ((condition committed inserts).1 metadata)
  | lookupTeamMembers | getTeamByName | getTeamById | resolveResponderRefs => exact metadata.elim

/-- A cache without teams, at any time. -/
def State.start (names : Nat → TeamNames) (clock : Nat) : State :=
  { db := .empty, names, fetches := [], clock }

/-- In every run of allowed operations from an empty cache, each team handed out has, while it is
fresh, the members of a fetch at most one lifetime ago, and storing metadata never removes a stored
member.

Proof: an empty cache is sound and every allowed operation keeps it so, so the cache is sound when
the operation in question is made. What it hands out is read from a sound cache or was just fetched,
and what it stores as metadata meets no stored member. -/
theorem fresh_teams_fetched (rendering : Rendering) (plugin : LookupPlugin) (delay : Nat)
    (names : Nat → TeamNames) (clock : Nat) (events : List Event)
    (allowed : Guarded (step rendering plugin) (Allowed rendering plugin delay)
      (.start names clock) events) :
    ∀ before event after, events = before ++ event :: after →
      (∀ team ∈ handedOut plugin (run (step rendering plugin) (.start names clock) before) event,
        ∀ reading, event.now ≤ reading →
          FetchedIfFresh delay
            (run (step rendering plugin) (.start names clock) (before ++ [event])).fetches
            team reading) ∧
      (StoresMetadata event →
        (run (step rendering plugin) (.start names clock) (before ++ [event])).db.teamMembers =
          (run (step rendering plugin) (.start names clock) before).db.teamMembers) := by
  rintro before event after rfl
  obtain ⟨earlier, here, _⟩ := (guarded_append _ before _).mp allowed
  have sound := invariant_run (fun _ _ sound allowed => (sound_step sound allowed).1) _ before
    (fun row stored => absurd stored List.not_mem_nil) earlier
  rw [run_append]
  exact ⟨handedOut_fetched sound here, metadata_members here⟩

section Example

/-- The team of the examples. -/
def sre : ThaumTeam := .ofId "SRE".toList "t-1".toList 0

/-- Alice is fetched as the only member of the team. -/
def aliceFetched : Event :=
  .lookupTeamMembers sre [.ofEmail "alice@example.com".toList] 20000000000 noFaults 20000000000

/-- Another bot attaches and reads the team list of Jira. -/
def teamListRead : Event :=
  .refreshTeamCache 1
    (.answered 200 (some (.arr
      [.obj [("teamName".toList, .str "SRE".toList), ("teamId".toList, .str "t-1".toList)]])))
    (fun _ => true) 20000000001

/-- The team list leaves the team fresh without the member just fetched, since it caches every
listed team as it is listed: with no members and as of now. -/
theorem team_list_discards_members :
    ∃ team, handedOut storedOrderPlugin
        (run (step asciiRendering storedOrderPlugin) (.start (fun _ => .empty) 0)
          [aliceFetched, teamListRead]) (.getTeamByName "SRE".toList 20000000002) = [team] ∧
      ¬ FetchedIfFresh 0 (run (step asciiRendering storedOrderPlugin) (.start (fun _ => .empty) 0)
          [aliceFetched, teamListRead]).fetches team 20000000002 := by
  refine ⟨{ sre with lastCached := 20000000001 }, by decide +kernel, ?_⟩
  intro fetched
  obtain ⟨fetch, recorded, _, _, same⟩ := fetched (by decide)
  obtain rfl := List.mem_singleton.mp recorded
  exact absurd ((same "alice@example.com".toList).mpr (by decide +kernel)) (by decide +kernel)

/-- The team as it is handed out right after its refresh. -/
def refreshedSre : ThaumTeam :=
  { sre with
    lookupId := none, alertId := none, lastCached := 20000000000
    members := [{ ThaumPerson.ofEmail "alice@example.com".toList with displayName := some [] }] }

/-- Right after its refresh the team is handed out with the fetched member, and with the fetch that
backs it. -/
theorem refreshed_team_fetched :
    refreshedSre ∈ handedOut storedOrderPlugin
        (run (step asciiRendering storedOrderPlugin) (.start (fun _ => .empty) 0) [aliceFetched])
        (.getTeamByName "SRE".toList 20000000002) ∧
      FetchedIfFresh 0 (run (step asciiRendering storedOrderPlugin) (.start (fun _ => .empty) 0)
        ([aliceFetched] ++ [.getTeamByName "SRE".toList 20000000002])).fetches
        refreshedSre 20000000002 := by
  have allowed : Guarded (step asciiRendering storedOrderPlugin)
      (Allowed asciiRendering storedOrderPlugin 0) (.start (fun _ => .empty) 0)
      [aliceFetched, .getTeamByName "SRE".toList 20000000002] :=
    ⟨⟨by decide, le_rfl, fun _ => Or.inl rfl⟩, ⟨by decide, trivial⟩, trivial⟩
  have handed : refreshedSre ∈ handedOut storedOrderPlugin
      (run (step asciiRendering storedOrderPlugin) (.start (fun _ => .empty) 0) [aliceFetched])
      (.getTeamByName "SRE".toList 20000000002) := by
    decide +kernel
  exact ⟨handed, (fresh_teams_fetched _ storedOrderPlugin 0 _ 0 _ allowed [aliceFetched] _ []
    rfl).1 _ handed _ le_rfl⟩

end Example

end Thaum.Lookup.Freshness
