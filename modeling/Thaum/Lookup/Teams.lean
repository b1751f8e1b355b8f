import Thaum.Lookup.Identity

/-!
# Teams and their cached membership

A `ThaumTeam` carries its members with the time they were cached. `is_fresh`
compares that time with the team's lifetime; `get_members` refreshes a stale team
through `lookup_team_members`, which fetches, merges every member into the people
cache and stores the team. A team object is mutated in place, so the operations
return what it has become even where they raise.

The plugin a team reaches through its chat bot is passed in.
-/

namespace Thaum.Lookup

open PyText KeyedRows

variable (plugin : LookupPlugin)

/-- The Jira team id and the first id of any platform, blank where there is none. -/
def teamIds (rows : List SchemaTeamPlatformId) : Text × Text :=
  let named := rows.filter fun row => strip row.platformId != []
  let jira := named.find? fun row => casefold (strip row.platformKey) == "jira".toList
  ((jira.map fun row => strip row.platformId).getD [],
    (named.head?.map fun row => strip row.platformId).getD [])

/-- `value or None`. -/
def orNone (value : Text) : Option Text := if value = [] then none else some value

/-- The stored team of a name, or of the closest one. -/
def findTeam (db : IdentityDb) (teamName : Text) : Option SchemaTeam :=
  match get SchemaTeam.teamName teamName db.teams with
  | some row => some row
  | none =>
    let names := (plugin.teamOrder.order db.teams).map SchemaTeam.teamName
    match plugin.closeMatch teamName names with
    | none => none
    | some resolved => get SchemaTeam.teamName resolved db.teams

/-- The team of a stored row, with the members that have a person row. -/
def readTeam (db : IdentityDb) (row : SchemaTeam) : ThaumTeam :=
  let ids := teamIds ((plugin.teamPlatformIdOrder.order db.teamPlatformIds).filter
    fun id => id.teamName == row.teamName)
  let emails := ((plugin.teamMemberOrder.order db.teamMembers).filter
    fun member => member.teamName == row.teamName).map SchemaTeamMember.email
  { teamName := row.teamName
    lookupId := orNone (orElse ids.1 ids.2)
    alertId := orNone ids.1
    members := emails.filterMap (readPersonByEmail plugin db)
    lastCached := row.lastCached
    ttl := row.ttl }

/-- `get_team_by_name`. -/
def getTeamByName (db : IdentityDb) (teamName : Text) : Option ThaumTeam :=
  (findTeam plugin db teamName).map (readTeam plugin db)

/-- `get_team_by_id`. -/
def getTeamById (db : IdentityDb) (botPluginName teamId : Text) : Option ThaumTeam :=
  match get SchemaTeamPlatformId.key (botPluginName, teamId) db.teamPlatformIds with
  | none => none
  | some row => if row.teamName = [] then none else getTeamByName plugin db row.teamName

/-- The member rows `cache_team` adds for a team. -/
def memberRows (team : ThaumTeam) : List SchemaTeamMember :=
  team.members.map fun member => { teamName := team.teamName, email := member.email }

/-- The member rows can be inserted: no email twice and, where it is enforced, a
person row for each. -/
def insertable (team : ThaumTeam) (db : IdentityDb) : Bool :=
  decide (memberRows team).Nodup &&
    (!plugin.enforcesForeignKeys ||
      team.members.all fun member => (get SchemaPerson.email member.email db.people).isSome)

/-- The team's lifetime, or the plugin's where it has none. -/
def storedTtl (team : ThaumTeam) : Int :=
  if team.ttl = 0 then plugin.defaultTeamTtlSeconds else team.ttl

/-- A team made from an id has the default lifetime. -/
theorem storedTtl_ofId (teamName teamId : Text) (now : Nat) :
    storedTtl plugin (.ofId teamName teamId now) = defaultTtl := by
  have positive : defaultTtl ≠ 0 := by decide
  exact if_neg positive

/-- The tables after a `cache_team` that commits. -/
def cachedTeamDb (team : ThaumTeam) (platform : Option (Text × Text)) (db : IdentityDb) :
    IdentityDb :=
  { db with
    teams := put SchemaTeam.teamName
      { teamName := team.teamName, lastCached := team.lastCached, ttl := storedTtl plugin team }
      db.teams
    teamMembers := (db.teamMembers.filter fun row => row.teamName != team.teamName) ++
      memberRows team
    teamPlatformIds := match platform with
      | none => db.teamPlatformIds
      | some id =>
        if id.1 = [] ∨ id.2 = [] then db.teamPlatformIds
        else match get SchemaTeamPlatformId.key id db.teamPlatformIds with
          | some _ => db.teamPlatformIds
          | none => db.teamPlatformIds ++
              [{ platformKey := id.1, platformId := id.2, teamName := team.teamName }] }

/-- `cache_team`, `none` where its transaction raises and is rolled back; `commits`
is whether the database carries it out. -/
def cacheTeam (team : ThaumTeam) (platform : Option (Text × Text)) (commits : Bool)
    (db : IdentityDb) : Option IdentityDb :=
  if commits && insertable plugin team db then some (cachedTeamDb plugin team platform db)
  else none

/-- Which database calls of a refresh raise. -/
structure Faults where
  mergeRaises : ThaumPerson → Bool
  cacheCommits : Bool

/-- The loop of `merge_team` over the members. -/
def mergeMembers (now : Nat) (raises : ThaumPerson → Bool) :
    List ThaumPerson → IdentityDb → IdentityDb × List ThaumPerson
  | [], db => (db, [])
  | member :: rest, db =>
    if raises member then
      let merged := mergeMembers now raises rest db
      (merged.1, member :: merged.2)
    else
      let first := mergePerson plugin now member db
      let merged := mergeMembers now raises rest first.1
      (merged.1, first.2 :: merged.2)

/-- What a refresh leaves: the tables, the team object, and whether it raised. -/
structure Merge where
  db : IdentityDb
  team : ThaumTeam
  raised : Bool

/-- `merge_team`, reading the clock once. -/
def mergeTeam (faults : Faults) (now : Nat) (team : ThaumTeam) (platform : Option (Text × Text))
    (db : IdentityDb) : Merge :=
  let merged := mergeMembers plugin now faults.mergeRaises team.members db
  let team := { team with members := merged.2, lastCached := now, ttl := storedTtl plugin team }
  match cacheTeam plugin team platform faults.cacheCommits merged.1 with
  | some db => { db, team, raised := false }
  | none => { db := merged.1, team, raised := true }

/-- `lookup_team_members`, given what `fetch_team_members` returned. -/
def lookupTeamMembers (faults : Faults) (now : Nat) (fetched : List ThaumPerson)
    (team : ThaumTeam) (db : IdentityDb) : Merge :=
  mergeTeam plugin faults now { team with members := fetched } none db

/-- `get_members`: the tables and the team object, whose members it returns. The
readings are those of `is_fresh`, of `merge_team` and of the final stamp. -/
def getMembers (checked stamped finished : Nat) (faults : Faults) (fetched : List ThaumPerson)
    (team : ThaumTeam) (db : IdentityDb) : IdentityDb × ThaumTeam :=
  if team.isFresh checked then (db, team)
  else
    let merge := lookupTeamMembers plugin faults stamped fetched team db
    if merge.raised then (merge.db, merge.team)
    else (merge.db, { merge.team with lastCached := finished })

/-- Add the cached team of a name; blank and unknown names are skipped. -/
def addTeamByName (db : IdentityDb) (out : RespondersList) (teamName : Text) : RespondersList :=
  if teamName = [] then out
  else match getTeamByName plugin db teamName with
    | some team => out.addTeam team
    | none => out

/-- One reference of `resolve_responder_refs`. -/
def resolveResponderRef (sourcePlugin : Text) (normalize : Text → Text) (now : Nat)
    (db : IdentityDb) (out : RespondersList) (raw : Text) : RespondersList :=
  let ref := strip raw
  if ref = [] then out
  else if startsWith (lower ref) "person:".toList then
    let email := strip (ref.drop 7)
    if email = [] then out else out.addPerson (.ofEmail email)
  else if startsWith (lower ref) "team:".toList then
    addTeamByName plugin db out (normalize (ref.drop 5))
  else if startsWith (lower ref) "id:team:".toList then
    let teamId := strip (ref.drop 8)
    if teamId = [] then out
    else match getTeamById plugin db "jira".toList teamId with
      | some team => out.addTeam { team with alertId := some teamId }
      | none => out.addTeam (.ofId teamId teamId now)
  else if startsWith (lower ref) "id:person:".toList then
    let personId := strip (ref.drop 10)
    if personId = [] then out
    else out.addPerson
      { email := "jira-account-id:".toList ++ personId, displayName := none
        platformIds := [("jira".toList, personId)], sourcePlugin }
  else if ref.contains '@' then out.addPerson (.ofEmail ref)
  else addTeamByName plugin db out (normalize ref)

/-- `resolve_responder_refs`. -/
def resolveResponderRefs (sourcePlugin : Text) (normalize : Text → Text) (now : Nat)
    (db : IdentityDb) (refs : List Text) : RespondersList :=
  refs.foldl (resolveResponderRef plugin sourcePlugin normalize now db)
    { people := [], teams := [] }

variable {plugin} {db : IdentityDb} {team : ThaumTeam} {now : Nat} {raises : ThaumPerson → Bool}

/-- A team reference adds no people. -/
@[simp] theorem addTeamByName_people (out : RespondersList) (teamName : Text) :
    (addTeamByName plugin db out teamName).people = out.people := by
  unfold addTeamByName
  split
  · rfl
  · split <;> rfl

/-- The people a reference adds depend on the reference only, not on the cache, the clock or the way
names are normalized. -/
theorem resolveResponderRef_people {out other : RespondersList} (sourcePlugin raw : Text)
    (normalize anyNormalize : Text → Text) (anyTime : Nat) (anyDb : IdentityDb)
    (same : out.people = other.people) :
    (resolveResponderRef plugin sourcePlugin normalize now db out raw).people =
      (resolveResponderRef plugin sourcePlugin anyNormalize anyTime anyDb other raw).people := by
  simp only [resolveResponderRef]
  repeat' split
  all_goals simp [RespondersList.addPerson, RespondersList.addTeam, same]

/-- The people of a list of references depend on the references only, by induction on the list. -/
theorem resolveResponderRefs_people (sourcePlugin : Text) (normalize anyNormalize : Text → Text)
    (anyTime : Nat) (anyDb : IdentityDb) (refs : List Text) :
    (resolveResponderRefs plugin sourcePlugin normalize now db refs).people =
      (resolveResponderRefs plugin sourcePlugin anyNormalize anyTime anyDb refs).people := by
  have added : ∀ out other : RespondersList, out.people = other.people →
      (refs.foldl (resolveResponderRef plugin sourcePlugin normalize now db) out).people =
        (refs.foldl (resolveResponderRef plugin sourcePlugin anyNormalize anyTime anyDb)
          other).people := by
    induction refs with
    | nil => exact fun _ _ same => same
    | cons raw rest inductionHypothesis =>
      intro out other same
      exact inductionHypothesis _ _ (resolveResponderRef_people sourcePlugin raw _ _ _ _ same)
  exact added _ _ rfl

/-- A team read from the tables has the members stored for it that have a person row, in the order
of the query. -/
theorem readTeam_emails {row : SchemaTeam} :
    (readTeam plugin db row).emails =
      (((plugin.teamMemberOrder.order db.teamMembers).filter fun member =>
        member.teamName == row.teamName).map SchemaTeamMember.email).filter fun email =>
          (readPersonByEmail plugin db email).isSome := by
  rw [ThaumTeam.emails, readTeam]
  dsimp only
  generalize ((plugin.teamMemberOrder.order db.teamMembers).filter fun member =>
    member.teamName == row.teamName).map SchemaTeamMember.email = emails
  induction emails with
  | nil => rfl
  | cons email rest inductionHypothesis =>
    rw [List.filterMap_cons, List.filter_cons]
    cases read : readPersonByEmail plugin db email with
    | none => simpa [read] using inductionHypothesis
    | some person => simpa [read, readPersonByEmail_email read] using inductionHypothesis

/-- Somebody is a member of a team that is read where the member and the person are stored. -/
theorem mem_readTeam {row : SchemaTeam} {email : Text} :
    email ∈ (readTeam plugin db row).emails ↔
      { teamName := row.teamName, email : SchemaTeamMember } ∈ db.teamMembers ∧
        Known db email := by
  rw [readTeam_emails, List.mem_filter, readPersonByEmail_isSome, List.mem_map]
  apply and_congr_left'
  constructor
  · rintro ⟨member, listed, rfl⟩
    obtain ⟨ordered, named⟩ := List.mem_filter.mp listed
    rw [← beq_iff_eq.mp named]
    exact (plugin.teamMemberOrder.permutes db.teamMembers).mem_iff.mp ordered
  · intro stored
    have ordered := (plugin.teamMemberOrder.permutes db.teamMembers).mem_iff.mpr stored
    exact ⟨_, List.mem_filter.mpr ⟨ordered, beq_self_eq_true _⟩, rfl⟩

/-- If each member of a team has a person row, all of them are read. -/
theorem mem_readTeam_emails {row : SchemaTeam} {email : Text}
    (known : ∀ member ∈ db.teamMembers, member.teamName = row.teamName → Known db member.email) :
    email ∈ (readTeam plugin db row).emails ↔
      { teamName := row.teamName, email : SchemaTeamMember } ∈ db.teamMembers := by
  rw [mem_readTeam, and_iff_left_of_imp]
  exact fun stored => known _ stored rfl

/-- Merging members changes the people tables only, so the stored teams stay as they are until the
write of the team. -/
theorem mergeMembers_frame (members : List ThaumPerson) :
    (mergeMembers plugin now raises members db).1.teams = db.teams ∧
      (mergeMembers plugin now raises members db).1.teamMembers = db.teamMembers := by
  induction members generalizing db with
  | nil => exact ⟨rfl, rfl⟩
  | cons member rest inductionHypothesis =>
    rw [mergeMembers]
    split
    · exact inductionHypothesis
    · exact inductionHypothesis

/-- Merged members keep their emails, whether their merge raised or not. -/
theorem mergeMembers_emails (members : List ThaumPerson) :
    (mergeMembers plugin now raises members db).2.map ThaumPerson.email =
      members.map ThaumPerson.email := by
  induction members generalizing db with
  | nil => rfl
  | cons member rest inductionHypothesis =>
    rw [mergeMembers]
    split
    · rw [List.map_cons, inductionHypothesis, List.map_cons]
    · rw [List.map_cons, inductionHypothesis, mergePerson_email, List.map_cons]

/-- Merging members forgets nobody. -/
theorem known_mergeMembers (members : List ThaumPerson) {email : Text} (known : Known db email) :
    Known (mergeMembers plugin now raises members db).1 email := by
  induction members generalizing db with
  | nil => exact known
  | cons member rest inductionHypothesis =>
    rw [mergeMembers]
    split
    · exact inductionHypothesis known
    · exact inductionHypothesis (known_mergePersonDb known)

/-- Where no merge raises, every member has a person row afterwards. -/
theorem mergeMembers_known {members : List ThaumPerson}
    (unfailing : ∀ member ∈ members, raises member = false) :
    ∀ member ∈ members, Known (mergeMembers plugin now raises members db).1 member.email := by
  induction members generalizing db with
  | nil => simp
  | cons member rest inductionHypothesis =>
    obtain ⟨here, later⟩ := List.forall_mem_cons.mp unfailing
    rw [mergeMembers, here]
    refine List.forall_mem_cons.mpr ⟨?_, inductionHypothesis later⟩
    exact known_mergeMembers rest known_mergePersonDb_self

/-- The members can be inserted where no email is there twice and, where foreign keys are enforced,
each has a person row. -/
theorem insertable_iff : insertable plugin team db = true ↔
    team.emails.Nodup ∧
      (plugin.enforcesForeignKeys = true → ∀ email ∈ team.emails, Known db email) := by
  have rows : (memberRows team).Nodup ↔ team.emails.Nodup := by
    have injective : Function.Injective fun email : Text =>
        ({ teamName := team.teamName, email } : SchemaTeamMember) :=
      fun first second same => congrArg SchemaTeamMember.email same
    have mapped : memberRows team = team.emails.map fun email =>
        { teamName := team.teamName, email } := by
      rw [ThaumTeam.emails, List.map_map]
      rfl
    rw [mapped, List.nodup_map_iff injective]
  have known : (team.members.all fun member =>
      (get SchemaPerson.email member.email db.people).isSome) = true ↔
        ∀ email ∈ team.emails, Known db email := by
    rw [List.all_eq_true, ThaumTeam.emails, List.forall_mem_map]
    apply forall₂_congr
    intro member isMember
    rw [Option.isSome_iff_ne_none, Ne, get_none_iff, Known]
    simp
  rw [insertable, Bool.and_eq_true, decide_eq_true_iff, rows, Bool.or_eq_true, known,
    Bool.not_eq_true', ← Bool.not_eq_true, ← imp_iff_not_or]

/-- Where foreign keys are enforced, only members with a person row are inserted. -/
theorem insertable_known (inserts : insertable plugin team db = true)
    (enforced : plugin.enforcesForeignKeys = true) : ∀ email ∈ team.emails, Known db email :=
  (insertable_iff.mp inserts).2 enforced

/-- What a committed `cache_team` changes is the row of the team and its members; it commits only
where the members can be inserted. -/
theorem cacheTeam_some {platform : Option (Text × Text)} {commits : Bool} {after : IdentityDb}
    (cached : cacheTeam plugin team platform commits db = some after) :
    commits = true ∧ insertable plugin team db = true ∧
      after = cachedTeamDb plugin team platform db := by
  unfold cacheTeam at cached
  split at cached
  · rename_i allowed
    obtain ⟨committed, inserts⟩ := Bool.and_eq_true_iff.mp allowed
    exact ⟨committed, inserts, (Option.some.inj cached).symm⟩
  · simp at cached

/-- A team stays stored under its name, and the team that is cached is stored under its own. -/
theorem named_cachedTeamDb {platform : Option (Text × Text)} {name : Text}
    (named : name = team.teamName ∨ ∃ stored ∈ db.teams, stored.teamName = name) :
    ∃ stored ∈ (cachedTeamDb plugin team platform db).teams, stored.teamName = name := by
  by_cases here : name = team.teamName
  · exact ⟨_, mem_put_self, here.symm⟩
  · obtain ⟨stored, isStored, rfl⟩ := named.resolve_left here
    exact ⟨stored, mem_put_other isStored here, rfl⟩

/-- A stored name is found as it is, before any closest match is asked for. -/
theorem findTeam_stored {teamName : Text}
    (stored : ∃ team ∈ db.teams, team.teamName = teamName) :
    ∃ row, findTeam plugin db teamName = some row ∧ row.teamName = teamName := by
  cases found : get SchemaTeam.teamName teamName db.teams with
  | none =>
    obtain ⟨team, isStored, named⟩ := stored
    exact absurd named (get_none_iff.mp found team isStored)
  | some row =>
    refine ⟨row, ?_, (get_some found).2⟩
    rw [findTeam, found]

/-- The members stored for a cached team are those of the object, and those of every other team are
as before. -/
theorem mem_cached_members {platform : Option (Text × Text)} {member : SchemaTeamMember} :
    member ∈ (cachedTeamDb plugin team platform db).teamMembers ↔
      if member.teamName = team.teamName then member.email ∈ team.emails
      else member ∈ db.teamMembers := by
  obtain ⟨name, email⟩ := member
  simp only [cachedTeamDb, memberRows, ThaumTeam.emails, List.mem_append, List.mem_filter,
    List.mem_map, SchemaTeamMember.mk.injEq, bne_iff_ne, ne_eq]
  split
  · rename_i same
    subst same
    simp
  · rename_i different
    simp [different, Ne.symm different]

/-- A refreshed team object is stamped and has the fetched members, stored or not. -/
theorem lookupTeamMembers_team (plugin : LookupPlugin) (faults : Faults) (now : Nat)
    (fetched : List ThaumPerson) (team : ThaumTeam) (db : IdentityDb) :
    (lookupTeamMembers plugin faults now fetched team db).team.teamName = team.teamName ∧
      (lookupTeamMembers plugin faults now fetched team db).team.lastCached = now ∧
      (lookupTeamMembers plugin faults now fetched team db).team.ttl = storedTtl plugin team ∧
      (lookupTeamMembers plugin faults now fetched team db).team.emails =
        fetched.map ThaumPerson.email := by
  unfold lookupTeamMembers mergeTeam
  dsimp only
  split
  · exact ⟨rfl, rfl, rfl, mergeMembers_emails fetched⟩
  · exact ⟨rfl, rfl, rfl, mergeMembers_emails fetched⟩

/-- No database call of a refresh raises. -/
def noFaults : Faults := { mergeRaises := fun _ => false, cacheCommits := true }

end Thaum.Lookup
