import Thaum.Lookup.Atlassian
import Thaum.Lookup.LdapAd

/-!
# What a failing refresh leaves

`get_members` keeps the members it has when the refresh of a stale team raises.
The remote plugins do not raise, though: a failed page, connection or search ends
the fetch with an empty list, and a failed user request drops one member. What
they return is assigned to the team, stamped and stored, so the old membership
and its time are gone and the next call finds a fresh team.
-/

namespace Thaum.Lookup.RefreshFailure

open PyText PyJson PyRequests

/-- The remote side of a refresh: the responses of Atlassian, or the connection and
the searches of a directory. -/
inductive Remote where
  | atlassian : (responses : List Response) → Remote
  | ldapAd : (cfg : LdapAd.Config) → (loads : LdapAd.JsonLoads) → (connected : Bool) →
      (searches : List LdapAd.Search) → Remote

/-- `fetch_team_members` of the plugin in use. -/
def fetchTeamMembers (rendering : Rendering) (plugin : LookupPlugin) (team : ThaumTeam) :
    Remote → List ThaumPerson
  | .atlassian responses => Atlassian.fetchTeamMembers rendering plugin team responses
  | .ldapAd cfg loads connected searches =>
    LdapAd.fetchTeamMembers rendering loads cfg plugin team connected searches

/-- The fetch is given up: a page request raises or answers with an error, the
connection is refused, or a search or the reading of an entry raises. -/
def Abandoned (rendering : Rendering) (plugin : LookupPlugin) : Remote → Prop
  | .atlassian responses =>
    Atlassian.fetchMemberPages rendering plugin (responses.length + 1) responses = none
  | .ldapAd cfg loads connected searches =>
    connected = false ∨ LdapAd.searchTeam rendering loads cfg plugin searches = none

/-- The object and the tables as a failing refresh should leave them. -/
def Preserved (team : ThaumTeam) (db : IdentityDb) (after : IdentityDb × ThaumTeam) : Prop :=
  after.2.members = team.members ∧ after.2.lastCached = team.lastCached ∧
    after.1.teams = db.teams ∧ after.1.teamMembers = db.teamMembers

variable {rendering : Rendering} {plugin : LookupPlugin} {remote : Remote} {team : ThaumTeam}
  {db : IdentityDb} {faults : Faults} {checked stamped finished : Nat}
  {fetched : List ThaumPerson}

/-- A fetch that is given up returns no members, whichever of the plugins it is made by. The
exception or error status does not reach the caller. -/
theorem abandoned_empty (abandoned : Abandoned rendering plugin remote) :
    fetchTeamMembers rendering plugin team remote = [] := by
  cases remote with
  | atlassian responses =>
    have raised : Atlassian.fetchMemberPages rendering plugin (responses.length + 1) responses =
        none := abandoned
    simp only [fetchTeamMembers, Atlassian.fetchTeamMembers, raised, Option.getD_none, ite_self]
  | ldapAd cfg loads connected searches =>
    simp only [fetchTeamMembers, LdapAd.fetchTeamMembers]
    rcases abandoned with refused | raised
    · simp [refused]
    · simp [raised]

/-- A refresh stamps the team at or after its merge, with the lifetime it is stored with, also where
the write raises. -/
theorem getMembers_stale (plugin : LookupPlugin) (faults : Faults) (fetched : List ThaumPerson)
    (db : IdentityDb) (stale : team.isFresh checked = false) (ordered : stamped ≤ finished) :
    stamped ≤ (getMembers plugin checked stamped finished faults fetched team db).2.lastCached ∧
      (getMembers plugin checked stamped finished faults fetched team db).2.ttl =
        storedTtl plugin team := by
  obtain ⟨_, restamped, lifetime, _⟩ :=
    lookupTeamMembers_team plugin faults stamped fetched team db
  simp only [getMembers, stale, Bool.false_eq_true, if_false]
  split
  · exact ⟨restamped.ge, lifetime⟩
  · exact ⟨ordered, lifetime⟩

/-- A team without members can always be stored: no email is there twice and none needs a person
row. -/
theorem insertable_memberless (memberless : team.members = []) :
    insertable plugin team db = true := by
  simp [insertable, memberRows, memberless]

/-- What a refresh makes of a team for which nothing was fetched. -/
def emptied (plugin : LookupPlugin) (stamped : Nat) (team : ThaumTeam) : ThaumTeam :=
  { team with members := [], lastCached := stamped, ttl := storedTtl plugin team }

/-- A refresh for which nothing was fetched stores the team without members, or raises where the
database refuses, with the object changed either way. -/
theorem lookupTeamMembers_empty :
    lookupTeamMembers plugin faults stamped [] team db =
      if faults.cacheCommits = true then
        { db := cachedTeamDb plugin (emptied plugin stamped team) none db
          team := emptied plugin stamped team, raised := false }
      else { db, team := emptied plugin stamped team, raised := true } := by
  have inserts : insertable plugin (emptied plugin stamped team) db = true :=
    insertable_memberless rfl
  have cached : cacheTeam plugin (emptied plugin stamped team) none faults.cacheCommits db =
      if faults.cacheCommits = true then
        some (cachedTeamDb plugin (emptied plugin stamped team) none db) else none := by
    rw [cacheTeam, inserts, Bool.and_true]
  have sameTtl : storedTtl plugin { team with members := [] } = storedTtl plugin team := rfl
  unfold emptied at cached ⊢
  rw [lookupTeamMembers, mergeTeam, mergeMembers]
  dsimp only
  rw [sameTtl, cached]
  cases faults.cacheCommits <;> rfl

/-- Refreshed with an empty list a team has no members, and none are left stored for it if the
database goes along. -/
theorem getMembers_empty (stale : team.isFresh checked = false) :
    (getMembers plugin checked stamped finished faults [] team db).2.members = [] ∧
      (faults.cacheCommits = true → ∀ member ∈
        (getMembers plugin checked stamped finished faults [] team db).1.teamMembers,
          member.teamName ≠ team.teamName) := by
  simp only [getMembers, stale, Bool.false_eq_true, if_false, lookupTeamMembers_empty]
  cases faults.cacheCommits with
  | false => exact ⟨rfl, fun committed => absurd committed Bool.false_ne_true⟩
  | true =>
    refine ⟨rfl, fun _ member stored same => ?_⟩
    have listed := mem_cached_members.mp stored
    have sameTeam : member.teamName = (emptied plugin stamped team).teamName := same
    rw [if_pos sameTeam] at listed
    exact List.not_mem_nil listed

/-- A refresh of a stale team never preserves it, however the remote side fails: the team is stamped
as fresh for its whole lifetime, and a fetch that was given up leaves it without members.

Proof: the stamp of a refreshed team is not before its merge, hence later than the old one, which
already is not as it was, and it keeps the team fresh for its lifetime. A fetch that is given up
returns nothing, and a refresh with nothing empties the object and the stored members. -/
theorem refresh_never_preserves (rendering : Rendering) (plugin : LookupPlugin)
    (remote : Remote) (faults : Faults) (team : ThaumTeam) (db : IdentityDb)
    (checked stamped finished : Nat) (stale : team.isFresh checked = false)
    (aged : team.lastCached < stamped) (ordered : stamped ≤ finished) :
    ¬ Preserved team db (getMembers plugin checked stamped finished faults
        (fetchTeamMembers rendering plugin team remote) team db) ∧
    (∀ reading : Nat, (reading : Int) < stamped + storedTtl plugin team * 1000000 →
      (getMembers plugin checked stamped finished faults
        (fetchTeamMembers rendering plugin team remote) team db).2.isFresh reading = true) ∧
    (Abandoned rendering plugin remote →
      (getMembers plugin checked stamped finished faults
        (fetchTeamMembers rendering plugin team remote) team db).2.members = [] ∧
      (faults.cacheCommits = true → ∀ member ∈ (getMembers plugin checked stamped finished faults
        (fetchTeamMembers rendering plugin team remote) team db).1.teamMembers,
          member.teamName ≠ team.teamName)) := by
  obtain ⟨restamped, lifetime⟩ := getMembers_stale plugin faults
    (fetchTeamMembers rendering plugin team remote) db stale ordered
  refine ⟨?_, ?_, ?_⟩
  · rintro ⟨_, stampKept, _⟩
    rw [stampKept] at restamped
    omega
  · intro reading early
    apply decide_eq_true
    rw [lifetime]
    omega
  · intro abandoned
    rw [abandoned_empty abandoned]
    exact getMembers_empty stale

section Example

/-- The SRE team as it was cached four hours ago, with one member. -/
def knownTeam : ThaumTeam where
  teamName := "SRE".toList
  lookupId := some "t-1".toList
  alertId := some "t-1".toList
  members := [.ofEmail "alice@example.com".toList]
  lastCached := 1000000
  ttl := 14400

/-- The tables with that team stored. -/
def knownDb : IdentityDb where
  people :=
    [{ email := "alice@example.com".toList, displayName := none, sourcePlugin := none
       nameLastUpdated := 1000000 }]
  platformIds := []
  teams := [{ teamName := "SRE".toList, lastCached := 1000000, ttl := 14400 }]
  teamMembers := [{ teamName := "SRE".toList, email := "alice@example.com".toList }]
  teamPlatformIds := []

/-- A single connection failure removes the member and leaves the team fresh: the request for the
first page raises, and the fetch ends with an empty list. -/
theorem connection_failure_discards_members :
    knownTeam.isFresh 14401000000 = false ∧
      ¬ Preserved knownTeam knownDb
        (getMembers storedOrderPlugin 14401000000 14401000001 14401000002 noFaults
          (fetchTeamMembers asciiRendering storedOrderPlugin knownTeam (.atlassian [.raised]))
          knownTeam knownDb) := by
  refine ⟨by decide, fun preserved => ?_⟩
  have kept := preserved.1
  revert kept
  decide +kernel

/-- After the same failure the team is fresh right away, so the next call does not fetch again. -/
theorem failed_refresh_not_retried :
    (getMembers storedOrderPlugin 14401000000 14401000001 14401000002 noFaults
      (fetchTeamMembers asciiRendering storedOrderPlugin knownTeam (.atlassian [.raised]))
      knownTeam knownDb).2.isFresh 14401000003 = true :=
  (refresh_never_preserves _ storedOrderPlugin (.atlassian [.raised]) noFaults knownTeam knownDb
    14401000000 14401000001 14401000002 (by decide) (by decide) (by decide)).2.1 _ (by decide)

end Example

end Thaum.Lookup.RefreshFailure
