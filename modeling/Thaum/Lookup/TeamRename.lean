import Thaum.Library.GuardedRuns
import Thaum.Lookup.Teams

/-!
# Team ids and renamed teams

`cache_team` stores the platform id of a team where the id is not stored yet, and leaves it
with the team that it was first stored for: a renamed team does not take its id along. A
name may have several Jira ids, of which the database answers with one first.

A history is a list of `cache_team` calls on a cache without teams. Which of them are
carried out depends on the people, whom they leave as they are.
-/

namespace Thaum.Lookup

open PyText KeyedRows GuardedRuns

/-- A call of `cache_team`. -/
structure CacheCall where
  team : ThaumTeam
  platform : Option (Text × Text)
  commits : Bool

variable (plugin : LookupPlugin)

/-- The row of an id that belongs to a name. -/
def idRow (id : Text × Text) (teamName : Text) : SchemaTeamPlatformId :=
  { platformKey := id.1, platformId := id.2, teamName }

/-- The tables after a call, which changes nothing where it raises. -/
def cacheStep (db : IdentityDb) (call : CacheCall) : IdentityDb :=
  (cacheTeam plugin call.team call.platform call.commits db).getD db

/-- The call is carried out and gives the id to its team. -/
def givesId (db : IdentityDb) (id : Text × Text) (call : CacheCall) : Bool :=
  call.commits && insertable plugin call.team db && call.platform == some id &&
    decide (id.1 ≠ [] ∧ id.2 ≠ [])

/-- The name of the team that the id was given to first. -/
def firstName (db : IdentityDb) (calls : List CacheCall) (id : Text × Text) : Option Text :=
  (calls.find? (givesId plugin db id)).map fun call => call.team.teamName

/-- A team is found by its id under its name and, where the id is one of Jira, by its name
with the id, in whatever order the database answers. -/
structure TeamIdFollows (db : IdentityDb) (teamName platformKey teamId : Text) : Prop where
  byId : ∃ team, getTeamById plugin db platformKey teamId = some team ∧ team.teamName = teamName
  byName : platformKey = "jira".toList → ∀ order : Scan SchemaTeamPlatformId, ∃ team,
    getTeamByName { plugin with teamPlatformIdOrder := order } db teamName = some team ∧
      team.lookupId = some teamId ∧ team.alertId = some teamId

/-- No call before gave the id to another team, and no other Jira id to this one. -/
structure IdUnshared (start : IdentityDb) (calls : List CacheCall)
    (teamName platformKey teamId : Text) : Prop where
  named : teamName ≠ []
  keyed : platformKey ≠ [] ∧ teamId ≠ []
  own : ∀ earlier ∈ firstName plugin start calls (platformKey, teamId), earlier = teamName
  only : platformKey = "jira".toList → Trimmed teamId ∧ ∀ other : Text × Text,
    casefold (strip other.1) = "jira".toList → strip other.2 ≠ [] →
      firstName plugin start calls other = some teamName → strip other.2 = teamId

/-- The tables of team ids that calls leave. -/
structure TeamRows (db : IdentityDb) : Prop where
  distinct : Distinct SchemaTeamPlatformId.key db.teamPlatformIds
  stored : ∀ row ∈ db.teamPlatformIds, ∃ team ∈ db.teams, team.teamName = row.teamName

variable {plugin} {db start after : IdentityDb} {call : CacheCall} {calls : List CacheCall}
  {id : Text × Text} {row : SchemaTeamPlatformId} {teamName teamId : Text}

section Steps

/-- Caching a team leaves the people alone. -/
theorem cacheStep_people : (cacheStep plugin db call).people = db.people := by
  unfold cacheStep cacheTeam
  split <;> rfl

/-- Which calls give an id depends on the people only, and no call of the history changes those. -/
theorem givesId_people {other : IdentityDb} (same : db.people = other.people) :
    givesId plugin db id = givesId plugin other id := by
  funext call
  unfold givesId insertable
  rw [same]

/-- A carried out call adds the row of its id where the id is complete and has none. It never
replaces one, so the name in the row stays. -/
theorem get_cachedTeamDb {team : ThaumTeam} {platform : Option (Text × Text)} :
    get SchemaTeamPlatformId.key id (cachedTeamDb plugin team platform db).teamPlatformIds =
      (get SchemaTeamPlatformId.key id db.teamPlatformIds).or
        (if platform = some id ∧ id.1 ≠ [] ∧ id.2 ≠ [] then some (idRow id team.teamName)
          else none) := by
  cases platform with
  | none => simp [cachedTeamDb]
  | some given =>
    by_cases blank : given.1 = [] ∨ given.2 = []
    · have incomplete : ¬ (some given = some id ∧ id.1 ≠ [] ∧ id.2 ≠ []) := by
        rintro ⟨same, first, second⟩
        rw [Option.some.inj same] at blank
        exact blank.elim first second
      rw [if_neg incomplete, Option.or_none]
      simp only [cachedTeamDb, if_pos blank]
    · have complete : given.1 ≠ [] ∧ given.2 ≠ [] := not_or.mp blank
      simp only [cachedTeamDb, if_neg blank]
      by_cases same : given = id
      · subst same
        rw [if_pos ⟨rfl, complete⟩]
        cases stored : get SchemaTeamPlatformId.key given db.teamPlatformIds with
        | some row => exact stored
        | none => exact get_append_fresh stored rfl
      · rw [if_neg fun taken => same (Option.some.inj taken.1), Option.or_none]
        cases stored : get SchemaTeamPlatformId.key given db.teamPlatformIds with
        | some row => rfl
        | none => exact get_append_other same

/-- A call gives its id where it is carried out and the id is not given yet. -/
theorem get_cacheStep :
    get SchemaTeamPlatformId.key id (cacheStep plugin db call).teamPlatformIds =
      (get SchemaTeamPlatformId.key id db.teamPlatformIds).or
        (if givesId plugin db id call then some (idRow id call.team.teamName) else none) := by
  unfold cacheStep cacheTeam givesId
  cases carriedOut : call.commits && insertable plugin call.team db with
  | false => simp
  | true =>
    rw [if_pos rfl, Option.getD_some, get_cachedTeamDb]
    simp

/-- An id belongs to the name that it was given to first, by induction on the calls. -/
theorem get_run :
    get SchemaTeamPlatformId.key id (run (cacheStep plugin) db calls).teamPlatformIds =
      (get SchemaTeamPlatformId.key id db.teamPlatformIds).or
        ((firstName plugin db calls id).map (idRow id)) := by
  induction calls generalizing db with
  | nil => exact (Option.or_none).symm
  | cons call rest inductionHypothesis =>
    have later : firstName plugin (cacheStep plugin db call) rest id =
        firstName plugin db rest id := by
      rw [firstName, givesId_people cacheStep_people, firstName]
    rw [run_cons, inductionHypothesis, get_cacheStep, later, Option.or_assoc]
    cases gives : givesId plugin db id call with
    | true => simp [firstName, gives]
    | false => simp [firstName, gives]

/-- Only complete ids are given, with a platform and an id that are not blank. -/
theorem firstName_complete (first : firstName plugin db calls id = some teamName) :
    id.1 ≠ [] ∧ id.2 ≠ [] := by
  obtain ⟨call, found, _⟩ := Option.map_eq_some_iff.mp first
  have gives := List.find?_some found
  simp only [givesId, Bool.and_eq_true, decide_eq_true_eq] at gives
  exact gives.2

/-- A call adds at most one row, of an id that has none. -/
theorem ids_cachedTeamDb (plugin : LookupPlugin) (team : ThaumTeam)
    (platform : Option (Text × Text)) (db : IdentityDb) :
    (cachedTeamDb plugin team platform db).teamPlatformIds = db.teamPlatformIds ∨
      ∃ id, get SchemaTeamPlatformId.key id db.teamPlatformIds = none ∧
        (cachedTeamDb plugin team platform db).teamPlatformIds =
          db.teamPlatformIds ++ [idRow id team.teamName] := by
  cases platform with
  | none => exact Or.inl rfl
  | some id =>
    by_cases blank : id.1 = [] ∨ id.2 = []
    · exact Or.inl (by simp only [cachedTeamDb, if_pos blank])
    · simp only [cachedTeamDb, if_neg blank]
      cases stored : get SchemaTeamPlatformId.key id db.teamPlatformIds with
      | some row => exact Or.inl rfl
      | none => exact Or.inr ⟨id, stored, rfl⟩

/-- A call keeps the ids distinct and the team of each stored. -/
theorem TeamRows.cached {team : ThaumTeam} {platform : Option (Text × Text)} (rows : TeamRows db) :
    TeamRows (cachedTeamDb plugin team platform db) := by
  rcases ids_cachedTeamDb plugin team platform db with same | ⟨id, fresh, added⟩
  · refine ⟨same ▸ rows.distinct, ?_⟩
    intro row isRow
    rw [same] at isRow
    exact named_cachedTeamDb (Or.inr (rows.stored row isRow))
  · refine ⟨added ▸ distinct_append rows.distinct fresh, ?_⟩
    intro row isRow
    rw [added] at isRow
    rcases List.mem_append.mp isRow with old | new
    · exact named_cachedTeamDb (Or.inr (rows.stored row old))
    · exact named_cachedTeamDb (Or.inl (by rw [List.mem_singleton.mp new, idRow]))

/-- So does a call that may raise. -/
theorem TeamRows.step (rows : TeamRows db) : TeamRows (cacheStep plugin db call) := by
  unfold cacheStep cacheTeam
  split
  · exact rows.cached
  · exact rows

/-- And so does a history of calls. -/
theorem TeamRows.run (rows : TeamRows db) : TeamRows (run (cacheStep plugin) db calls) :=
  invariant_run (fun _ _ kept _ => kept.step) db calls rows
    (guarded_of_forall (fun _ _ => trivial) db calls)

end Steps

section Reads

/-- The row is a Jira id of the name. -/
def jiraOf (teamName : Text) (row : SchemaTeamPlatformId) : Bool :=
  row.teamName == teamName && strip row.platformId != [] &&
    casefold (strip row.platformKey) == "jira".toList

/-- The Jira id of a team is the first of its rows in the order of the scan. -/
theorem teamIds_fst (scan : Scan SchemaTeamPlatformId) (rows : List SchemaTeamPlatformId) :
    (teamIds ((scan.order rows).filter fun id => id.teamName == teamName)).1 =
      ((scan.first (jiraOf teamName) rows).map fun row => strip row.platformId).getD [] := by
  have condition : (fun row : SchemaTeamPlatformId =>
      decide ((strip row.platformId != [] && row.teamName == teamName) = true ∧
        (casefold (strip row.platformKey) == "jira".toList) = true)) = jiraOf teamName := by
    funext row
    rw [jiraOf, Bool.and_comm (row.teamName == teamName), Bool.decide_and, Bool.decide_eq_true,
      Bool.decide_eq_true]
  simp only [teamIds, List.filter_filter, List.find?_filter, Scan.first]
  rw [condition]

/-- A team read from the tables has a Jira id where the scan finds a row of one first. -/
theorem readTeam_jira_iff {team : SchemaTeam} :
    ((readTeam plugin db team).lookupId = some teamId ∧
        (readTeam plugin db team).alertId = some teamId) ↔
      ∃ row, plugin.teamPlatformIdOrder.first (jiraOf team.teamName) db.teamPlatformIds = some row ∧
        strip row.platformId = teamId := by
  simp only [readTeam, teamIds_fst]
  cases first : plugin.teamPlatformIdOrder.first (jiraOf team.teamName) db.teamPlatformIds with
  | none => simp [orNone]
  | some row =>
    have matching := (Scan.first_some first).2
    simp only [jiraOf, Bool.and_eq_true, bne_iff_ne] at matching
    have nonblank : strip row.platformId ≠ [] := matching.1.2
    simp [orNone, orElse, nonblank]

/-- In every order a name has the Jira id, where it has it and no other. With two of them some order
gives the other one first. -/
theorem byName_iff (stored : ∃ team ∈ db.teams, team.teamName = teamName) :
    (∀ order : Scan SchemaTeamPlatformId, ∃ team,
      getTeamByName { plugin with teamPlatformIdOrder := order } db teamName = some team ∧
        team.lookupId = some teamId ∧ team.alertId = some teamId) ↔
      (∃ row ∈ db.teamPlatformIds, jiraOf teamName row = true) ∧
        ∀ row ∈ db.teamPlatformIds, jiraOf teamName row = true →
          strip row.platformId = teamId := by
  have read (order : Scan SchemaTeamPlatformId) : (∃ team,
      getTeamByName { plugin with teamPlatformIdOrder := order } db teamName = some team ∧
        team.lookupId = some teamId ∧ team.alertId = some teamId) ↔
      ∃ row, order.first (jiraOf teamName) db.teamPlatformIds = some row ∧
        strip row.platformId = teamId := by
    obtain ⟨row, found, rfl⟩ := @findTeam_stored
      { plugin with teamPlatformIdOrder := order } db teamName stored
    simp only [getTeamByName, found, Option.map_some, Option.some.injEq, exists_eq_left']
    exact readTeam_jira_iff
  simp only [read]
  constructor
  · intro always
    refine ⟨?_, ?_⟩
    · obtain ⟨row, first, _⟩ := always Scan.stored
      exact ⟨row, Scan.first_some first⟩
    · intro row isRow matching
      obtain ⟨order, first⟩ := Scan.exists_first isRow matching
      obtain ⟨found, isFound, same⟩ := always order
      rwa [Option.some.inj (first.symm.trans isFound)]
  · rintro ⟨⟨row, isRow, matching⟩, only⟩ order
    cases first : order.first (jiraOf teamName) db.teamPlatformIds with
    | none =>
      have unmatched := Scan.first_none_iff.mp first row isRow
      rw [matching] at unmatched
      contradiction
    | some found =>
      obtain ⟨isFound, matched⟩ := Scan.first_some first
      exact ⟨found, rfl, only found isFound matched⟩

/-- An id finds the team that it belongs to, under the name in the id's row. -/
theorem byId_iff (rows : TeamRows db) {platformKey : Text} :
    (∃ team, getTeamById plugin db platformKey teamId = some team ∧ team.teamName = teamName) ↔
      teamName ≠ [] ∧ ∃ row,
        get SchemaTeamPlatformId.key (platformKey, teamId) db.teamPlatformIds = some row ∧
          row.teamName = teamName := by
  cases given : get SchemaTeamPlatformId.key (platformKey, teamId) db.teamPlatformIds with
  | none => simp [getTeamById, given]
  | some row =>
    obtain ⟨team, found, named⟩ := @findTeam_stored plugin db row.teamName
      (rows.stored row (get_some given).1)
    have read : (readTeam plugin db team).teamName = row.teamName := named
    by_cases blank : row.teamName = []
    · simp only [getTeamById, given, if_pos blank]
      simp [blank, eq_comm]
    · simp only [getTeamById, given, if_neg blank, getTeamByName, found, Option.map_some]
      simp [read]
      rintro rfl
      exact blank

end Reads

section Renames

variable {team : ThaumTeam} {platformKey : Text}

/-- After a call an id belongs to the name that it was given to first, the call included. -/
theorem get_cached (noIds : start.teamPlatformIds = [])
    (cached : cacheTeam plugin team (some (platformKey, teamId)) true
      (run (cacheStep plugin) start calls) = some after) :
    get SchemaTeamPlatformId.key id after.teamPlatformIds =
      ((firstName plugin start calls id).or
        (if (platformKey, teamId) = id ∧ id.1 ≠ [] ∧ id.2 ≠ [] then some team.teamName
          else none)).map (idRow id) := by
  obtain ⟨_, _, rfl⟩ := cacheTeam_some cached
  have none_start : get SchemaTeamPlatformId.key id start.teamPlatformIds = none := by
    rw [noIds]
    rfl
  rw [get_cachedTeamDb, get_run, none_start, Option.none_or, Option.map_or]
  simp only [Option.some.injEq]
  split <;> rfl

/-- The rows that calls and one more leave, and the team of the last one. -/
theorem rows_cached (noIds : start.teamPlatformIds = [])
    (cached : cacheTeam plugin team (some (platformKey, teamId)) true
      (run (cacheStep plugin) start calls) = some after) :
    TeamRows after ∧ ∃ stored ∈ after.teams, stored.teamName = team.teamName := by
  obtain ⟨_, _, rfl⟩ := cacheTeam_some cached
  have initially : TeamRows start := by
    refine ⟨?_, ?_⟩
    · rw [noIds]
      exact List.nodup_nil
    · rw [noIds]
      exact fun row isRow => absurd isRow List.not_mem_nil
  exact ⟨initially.run.cached, named_cachedTeamDb (Or.inl rfl)⟩

/-- Where the name is given no other Jira id, every Jira id of it is the one of the call. -/
theorem jiraOf_own (noIds : start.teamPlatformIds = [])
    (cached : cacheTeam plugin team (some (platformKey, teamId)) true
      (run (cacheStep plugin) start calls) = some after)
    (trimmed : Trimmed teamId)
    (others : ∀ other : Text × Text, casefold (strip other.1) = "jira".toList →
      strip other.2 ≠ [] → firstName plugin start calls other = some team.teamName →
        strip other.2 = teamId)
    (isRow : row ∈ after.teamPlatformIds) (matching : jiraOf team.teamName row = true) :
    strip row.platformId = teamId := by
  simp only [jiraOf, Bool.and_eq_true, bne_iff_ne, beq_iff_eq] at matching
  obtain ⟨⟨rowName, nonblank⟩, rowKey⟩ := matching
  have read := get_of_mem (rows_cached noIds cached).1.distinct isRow
  rw [get_cached noIds cached] at read
  obtain ⟨name, given, isRowOf⟩ := Option.map_eq_some_iff.mp read
  have sameName : name = team.teamName := by
    rw [← rowName, ← isRowOf]
    rfl
  subst sameName
  rcases Option.or_eq_some_iff.mp given with earlier | ⟨_, now⟩
  · exact others row.key rowKey nonblank earlier
  · split at now
    · rename_i isOwn
      have sameId : teamId = row.platformId := congrArg Prod.snd isOwn.1
      rw [← sameId]
      exact trimmed
    · exact absurd now (Option.some_ne_none _).symm

/-- A team takes its id along where the id and the name are not shared.

Proof: after the calls an id belongs to the name it was given to first. Found by its id under its
name, the team was given the id first itself, so no earlier call gave it to another; found by its
name with that id in every order, the name has no other. Conversely, unshared, the id's row is that
of the team and the only Jira id of its name. -/
theorem team_id_follows_iff (plugin : LookupPlugin) (start : IdentityDb)
    (noIds : start.teamPlatformIds = []) (calls : List CacheCall) (team : ThaumTeam)
    (platformKey teamId : Text) (after : IdentityDb)
    (cached : cacheTeam plugin team (some (platformKey, teamId)) true
      (run (cacheStep plugin) start calls) = some after) :
    TeamIdFollows plugin after team.teamName platformKey teamId ↔
      IdUnshared plugin start calls team.teamName platformKey teamId := by
  have belongs (id : Text × Text) := @get_cached plugin start after calls id teamId team
    platformKey noIds cached
  obtain ⟨rows, stored⟩ := rows_cached noIds cached
  constructor
  · rintro ⟨byId, byName⟩
    obtain ⟨named, row, found, owned⟩ := (byId_iff rows).mp byId
    rw [belongs] at found
    obtain ⟨name, first, rfl⟩ := Option.map_eq_some_iff.mp found
    have isName : name = team.teamName := owned
    refine ⟨named, ?_, ?_, ?_⟩
    · rcases Option.or_eq_some_iff.mp first with earlier | ⟨_, now⟩
      · exact firstName_complete earlier
      · by_contra incomplete
        rw [if_neg fun complete => incomplete complete.2] at now
        exact absurd now (Option.some_ne_none name).symm
    · intro earlier isEarlier
      rw [Option.mem_def.mp isEarlier, Option.some_or] at first
      exact (Option.some.inj first).trans isName
    · intro isJira
      obtain ⟨⟨jira, isStored, matching⟩, same⟩ := (byName_iff stored).mp (byName isJira)
      refine ⟨?_, ?_⟩
      · rw [Trimmed, ← same jira isStored matching, strip_strip]
      · intro other isOther nonblank first
        have read := belongs other
        rw [first, Option.some_or, Option.map_some] at read
        refine same _ (get_some read).1 ?_
        simp [jiraOf, idRow, isOther, nonblank]
  · rintro ⟨named, complete, own, only⟩
    have first : get SchemaTeamPlatformId.key (platformKey, teamId) after.teamPlatformIds =
        some (idRow (platformKey, teamId) team.teamName) := by
      rw [belongs, if_pos ⟨rfl, complete⟩]
      cases earlier : firstName plugin start calls (platformKey, teamId) with
      | none => rfl
      | some name => rw [Option.some_or, own name earlier, Option.map_some]
    refine ⟨(byId_iff rows).mpr ⟨named, _, first, rfl⟩, fun isJira => (byName_iff stored).mpr ?_⟩
    obtain ⟨trimmed, others⟩ := only isJira
    refine ⟨⟨_, (get_some first).1, ?_⟩, ?_⟩
    · have isKey : casefold (strip platformKey) = "jira".toList := by
        rw [isJira]
        decide
      have kept : strip teamId = teamId := trimmed
      simp [jiraOf, idRow, isKey, kept, complete.2]
    · exact fun row => jiraOf_own noIds cached trimmed others

end Renames

section Example

/-- The Jira id of a team, which keeps it under either name. -/
def opsId : Text × Text := ("jira".toList, "team-1".toList)

/-- The team is cached under its old name. -/
def opsCached : CacheCall :=
  { team := .ofId "Ops".toList "team-1".toList 0, platform := some opsId, commits := true }

/-- The team under its new name. -/
def platformOps : ThaumTeam := .ofId "Platform Ops".toList "team-1".toList 1

/-- The tables after the team is cached under its old name and then under its new one. -/
def renamedDb : IdentityDb :=
  cachedTeamDb storedOrderPlugin platformOps (some opsId)
    (cacheStep storedOrderPlugin .empty opsCached)

/-- The id still finds the old name, and the renamed team has none. -/
theorem renamed_team_unfound :
    cacheTeam storedOrderPlugin platformOps (some opsId) true
        (run (cacheStep storedOrderPlugin) .empty [opsCached]) = some renamedDb ∧
      ¬ TeamIdFollows storedOrderPlugin renamedDb "Platform Ops".toList "jira".toList
        "team-1".toList ∧
      ((getTeamById storedOrderPlugin renamedDb "jira".toList "team-1".toList).map
        ThaumTeam.teamName = some "Ops".toList) ∧
      (getTeamByName storedOrderPlugin renamedDb "Platform Ops".toList).map ThaumTeam.lookupId =
        some none := by
  have oldName : (getTeamById storedOrderPlugin renamedDb "jira".toList "team-1".toList).map
      ThaumTeam.teamName = some "Ops".toList := by
    decide +kernel
  refine ⟨by decide +kernel, ?_, oldName, by decide +kernel⟩
  rintro ⟨⟨team, found, named⟩, _⟩
  rw [found, Option.map_some, named] at oldName
  exact absurd oldName (by decide)

/-- Cached again under its old name, the team keeps its id. -/
theorem cached_again_follows :
    ∃ after, cacheTeam storedOrderPlugin opsCached.team (some opsId) true
        (run (cacheStep storedOrderPlugin) .empty [opsCached]) = some after ∧
      TeamIdFollows storedOrderPlugin after "Ops".toList "jira".toList "team-1".toList := by
  have unshared : IdUnshared storedOrderPlugin .empty [opsCached] "Ops".toList "jira".toList
      "team-1".toList := by
    have first : firstName storedOrderPlugin .empty [opsCached] opsId = some "Ops".toList := by
      decide +kernel
    refine ⟨by decide, by decide, ?_, fun _ => ⟨by decide, ?_⟩⟩
    · intro earlier isEarlier
      exact Option.some.inj (isEarlier.symm.trans first)
    · intro other _ _ given
      obtain ⟨call, found, _⟩ := Option.map_eq_some_iff.mp given
      obtain rfl := List.mem_singleton.mp (List.mem_of_find?_eq_some found)
      have gives := List.find?_some found
      simp only [givesId, Bool.and_eq_true, beq_iff_eq] at gives
      obtain rfl : opsId = other := Option.some.inj gives.1.2
      decide
  exact ⟨cachedTeamDb storedOrderPlugin opsCached.team (some opsId)
      (cacheStep storedOrderPlugin .empty opsCached), by decide +kernel,
    (team_id_follows_iff storedOrderPlugin .empty rfl [opsCached] opsCached.team _ _ _
      (by decide +kernel)).mpr unshared⟩

end Example

end Thaum.Lookup
