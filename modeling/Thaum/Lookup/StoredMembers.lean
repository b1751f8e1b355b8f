import Thaum.Lookup.RefreshFailure

/-!
# Storing what was fetched

`lookup_team_members` puts the fetched members into the team object, merges them and
writes one row for each. The rows have the team and the email as their key, so an email
that was fetched twice keeps the whole team from being stored. By then the object has the
new members and is stamped.

Every merge has a clock reading of its own, and whether it raises.
-/

namespace Thaum.Lookup.StoredMembers

open PyText KeyedRows

/-- A member with the `merge_person` call that is made for it. -/
structure MemberMerge where
  member : ThaumPerson
  now : Nat
  raises : Bool

variable (plugin : LookupPlugin)

/-- The loop of `merge_team`: the tables and the merged members. -/
def mergeEach : List MemberMerge → IdentityDb → IdentityDb × List ThaumPerson
  | [], db => (db, [])
  | merge :: rest, db =>
    if merge.raises then
      let merged := mergeEach rest db
      (merged.1, merge.member :: merged.2)
    else
      let first := mergePerson plugin merge.now merge.member db
      let merged := mergeEach rest first.1
      (merged.1, first.2 :: merged.2)

/-- `lookup_team_members` of the fetched members; `commits` is whether the database carries
out what it is asked to insert. -/
def lookupTeamMembers (fetched : List MemberMerge) (stamped : Nat) (commits : Bool)
    (team : ThaumTeam) (db : IdentityDb) : Merge :=
  let merged := mergeEach plugin fetched db
  let team := { team with members := merged.2, lastCached := stamped, ttl := storedTtl plugin team }
  match cacheTeam plugin team none commits merged.1 with
  | some db => { db, team, raised := false }
  | none => { db := merged.1, team, raised := true }

/-- Stored, the team has the members with a person row, each once; refused, neither the
stored team nor the object has changed. -/
structure StoredOrUnchanged (fetched : List MemberMerge) (stamped : Nat) (commits : Bool)
    (team : ThaumTeam) (db : IdentityDb) : Prop where
  stored : (lookupTeamMembers plugin fetched stamped commits team db).raised = false →
    ∃ found, getTeamByName plugin (lookupTeamMembers plugin fetched stamped commits team db).db
        team.teamName = some found ∧ found.emails.Nodup ∧
      ∀ email, email ∈ found.emails ↔ (∃ merge ∈ fetched, merge.member.email = email) ∧
        Known (lookupTeamMembers plugin fetched stamped commits team db).db email
  unchanged : (lookupTeamMembers plugin fetched stamped commits team db).raised = true →
    (lookupTeamMembers plugin fetched stamped commits team db).db.teams = db.teams ∧
      (lookupTeamMembers plugin fetched stamped commits team db).db.teamMembers =
        db.teamMembers ∧
      (lookupTeamMembers plugin fetched stamped commits team db).team.members = team.members ∧
      (lookupTeamMembers plugin fetched stamped commits team db).team.lastCached =
        team.lastCached

/-- The database goes along, no email was fetched twice and, where it is enforced, every
member is a stored person or becomes one. -/
structure Storable (fetched : List MemberMerge) (commits : Bool) (db : IdentityDb) : Prop where
  committed : commits = true
  distinct : (fetched.map fun merge => merge.member.email).Nodup
  known : plugin.enforcesForeignKeys = true →
    ∀ merge ∈ fetched, Known db merge.member.email ∨ merge.raises = false

variable {plugin} {fetched : List MemberMerge} {stamped : Nat} {commits : Bool}
  {team : ThaumTeam} {db : IdentityDb} {email : Text}

/-- Where it depends on the fragment whether its merge raises, and the clock stands, this is the
refresh of `get_members`. -/
theorem lookupTeamMembers_faults (faults : Faults) (members : List ThaumPerson) :
    lookupTeamMembers plugin (members.map fun member =>
        { member, now := stamped, raises := faults.mergeRaises member }) stamped
        faults.cacheCommits team db =
      Lookup.lookupTeamMembers plugin faults stamped members team db := by
  have merged : mergeEach plugin (members.map fun member =>
      { member, now := stamped, raises := faults.mergeRaises member }) db =
        mergeMembers plugin stamped faults.mergeRaises members db := by
    induction members generalizing db with
    | nil => rfl
    | cons member rest inductionHypothesis =>
      rw [List.map_cons, mergeEach, mergeMembers]
      simp only [inductionHypothesis]
  unfold lookupTeamMembers Lookup.lookupTeamMembers mergeTeam
  rw [merged]
  rfl

section Merges

/-- The merged members have the emails that were fetched, in their order. -/
theorem mergeEach_emails (fetched : List MemberMerge) (db : IdentityDb) :
    (mergeEach plugin fetched db).2.map ThaumPerson.email =
      fetched.map fun merge => merge.member.email := by
  induction fetched generalizing db with
  | nil => rfl
  | cons merge rest inductionHypothesis =>
    rw [mergeEach]
    split
    · rw [List.map_cons, List.map_cons, inductionHypothesis]
    · rw [List.map_cons, List.map_cons, inductionHypothesis, mergePerson_email]

/-- A person is stored after the merges where it was before, or a merge of it succeeds. The
induction is on the fetched members. -/
theorem mergeEach_known : Known (mergeEach plugin fetched db).1 email ↔
    Known db email ∨ ∃ merge ∈ fetched, merge.member.email = email ∧ merge.raises = false := by
  induction fetched generalizing db with
  | nil => simp [mergeEach]
  | cons merge rest inductionHypothesis =>
    rw [mergeEach, List.exists_mem_cons_iff]
    cases raises : merge.raises with
    | true => simp [inductionHypothesis]
    | false =>
      rw [if_neg Bool.false_ne_true, inductionHypothesis, ← or_assoc, and_iff_left rfl]
      exact or_congr_left known_mergePersonDb_iff

end Merges

section Outcomes

/-- The object that a refresh leaves, stored or not. -/
def refreshed (plugin : LookupPlugin) (fetched : List MemberMerge) (stamped : Nat)
    (team : ThaumTeam) (db : IdentityDb) : ThaumTeam :=
  { team with
    members := (mergeEach plugin fetched db).2, lastCached := stamped
    ttl := storedTtl plugin team }

/-- The refreshed object has the fetched emails. -/
theorem refreshed_emails : (refreshed plugin fetched stamped team db).emails =
    fetched.map fun merge => merge.member.email :=
  mergeEach_emails fetched db

/-- The write is carried out where the members are storable: the rows have the team and the email as
their key, so an email fetched twice is refused. -/
theorem insertable_refreshed_iff :
    (commits && insertable plugin (refreshed plugin fetched stamped team db)
      (mergeEach plugin fetched db).1) = true ↔ Storable plugin fetched commits db := by
  rw [Bool.and_eq_true, insertable_iff, refreshed_emails]
  constructor
  · rintro ⟨committed, distinct, known⟩
    refine ⟨committed, distinct, ?_⟩
    intro enforced merge isMerge
    have isKnown := known enforced _ (List.mem_map_of_mem isMerge)
    rcases mergeEach_known.mp isKnown with before | ⟨other, isOther, same, succeeds⟩
    · exact Or.inl before
    · obtain rfl := List.inj_on_of_nodup_map distinct isOther isMerge same
      exact Or.inr succeeds
  · rintro ⟨committed, distinct, known⟩
    refine ⟨committed, distinct, ?_⟩
    intro enforced email listed
    obtain ⟨merge, isMerge, rfl⟩ := List.mem_map.mp listed
    apply mergeEach_known.mpr
    exact (known enforced merge isMerge).imp_right fun succeeds => ⟨merge, isMerge, rfl, succeeds⟩

/-- Storable members are stored, and the refresh does not raise. -/
theorem lookupTeamMembers_storable (storable : Storable plugin fetched commits db) :
    lookupTeamMembers plugin fetched stamped commits team db =
      { db := cachedTeamDb plugin (refreshed plugin fetched stamped team db) none
          (mergeEach plugin fetched db).1
        team := refreshed plugin fetched stamped team db, raised := false } := by
  have allowed := @insertable_refreshed_iff plugin fetched stamped commits team db |>.mpr storable
  unfold refreshed at allowed ⊢
  rw [lookupTeamMembers, cacheTeam, if_pos allowed]

/-- Members that are not storable leave the stored teams alone, but not the object, which has them
and its new stamp by then. -/
theorem lookupTeamMembers_unstorable (unstorable : ¬ Storable plugin fetched commits db) :
    lookupTeamMembers plugin fetched stamped commits team db =
      { db := (mergeEach plugin fetched db).1
        team := refreshed plugin fetched stamped team db, raised := true } := by
  have refused := mt (@insertable_refreshed_iff plugin fetched stamped commits team db).mp
    unstorable
  unfold refreshed at refused ⊢
  rw [lookupTeamMembers, cacheTeam, if_neg refused]

/-- A team read after it was stored has its known members, each once. -/
theorem readTeam_cached {row : SchemaTeam} (named : row.teamName = team.teamName)
    (distinct : team.emails.Nodup) :
    (readTeam plugin (cachedTeamDb plugin team none db) row).emails.Nodup ∧
      ∀ email, email ∈ (readTeam plugin (cachedTeamDb plugin team none db) row).emails ↔
        email ∈ team.emails ∧ Known db email := by
  constructor
  · rw [readTeam_emails]
    apply List.Nodup.filter
    have others : (db.teamMembers.filter fun member => member.teamName != team.teamName).filter
        (fun member => member.teamName == row.teamName) = [] := by
      rw [named, List.filter_eq_nil_iff]
      intro member listed
      simpa using (List.mem_filter.mp listed).2
    have own : (memberRows team).filter (fun member => member.teamName == row.teamName) =
        memberRows team := by
      rw [List.filter_eq_self]
      intro member listed
      obtain ⟨person, _, rfl⟩ := List.mem_map.mp listed
      exact beq_iff_eq.mpr named.symm
    have rows := (plugin.teamMemberOrder.permutes
      (cachedTeamDb plugin team none db).teamMembers).filter
        fun member => member.teamName == row.teamName
    have added : (cachedTeamDb plugin team none db).teamMembers =
        (db.teamMembers.filter fun member => member.teamName != team.teamName) ++
          memberRows team := rfl
    rw [added, List.filter_append, others, own, List.nil_append, ← added] at rows
    rw [(rows.map SchemaTeamMember.email).nodup_iff, memberRows, List.map_map]
    exact distinct
  · intro email
    rw [mem_readTeam, mem_cached_members, if_pos named]
    exact Iff.rfl

/-- Storable members are stored whatever the clock reads. -/
theorem StoredOrUnchanged.of_storable (storable : Storable plugin fetched commits db) :
    StoredOrUnchanged plugin fetched stamped commits team db := by
  have stored := @lookupTeamMembers_storable plugin fetched stamped commits team db storable
  constructor
  · intro _
    rw [stored]
    have distinct : (refreshed plugin fetched stamped team db).emails.Nodup := by
      rw [refreshed_emails]
      exact storable.distinct
    obtain ⟨row, found, named⟩ := @findTeam_stored plugin
      (cachedTeamDb plugin (refreshed plugin fetched stamped team db) none
        (mergeEach plugin fetched db).1) team.teamName (named_cachedTeamDb (Or.inl rfl))
    obtain ⟨once, members⟩ := @readTeam_cached plugin (refreshed plugin fetched stamped team db)
      (mergeEach plugin fetched db).1 row named distinct
    refine ⟨_, by rw [getTeamByName, found, Option.map_some], once, ?_⟩
    intro email
    rw [members, refreshed_emails, List.mem_map]
    exact Iff.rfl
  · intro raised
    rw [stored] at raised
    cases raised

/-- A refresh that is refused has stamped the object, so where the property holds at another reading
the members were storable. -/
theorem StoredOrUnchanged.storable (moved : stamped ≠ team.lastCached)
    (holds : StoredOrUnchanged plugin fetched stamped commits team db) :
    Storable plugin fetched commits db := by
  by_contra unstorable
  have refused := @lookupTeamMembers_unstorable plugin fetched stamped commits team db unstorable
  have same := (holds.unchanged (by rw [refused])).2.2.2
  rw [refused] at same
  exact moved same

/-- However the clock stands, what was fetched is stored or nothing changes exactly where it can be
stored; at each reading other than the time in the object this is so too.

Proof: storable members are stored and read back. Members that are not storable make the write raise
after the object was stamped, which is a change at any reading but the old stamp; and for all
readings together one later than the stamp is enough. -/
theorem stored_or_unchanged_iff (plugin : LookupPlugin) (fetched : List MemberMerge)
    (commits : Bool) (team : ThaumTeam) (db : IdentityDb) :
    ((∀ stamped, StoredOrUnchanged plugin fetched stamped commits team db) ↔
        Storable plugin fetched commits db) ∧
      ∀ stamped, stamped ≠ team.lastCached →
        (StoredOrUnchanged plugin fetched stamped commits team db ↔
          Storable plugin fetched commits db) := by
  refine ⟨⟨?_, fun storable _ => .of_storable storable⟩,
    fun stamped moved => ⟨StoredOrUnchanged.storable moved, .of_storable⟩⟩
  intro always
  exact (always (team.lastCached + 1)).storable (Nat.succ_ne_self _)

end Outcomes

section Example

open PyJson PyRequests

/-- A page of the members of the team, with one account. -/
def memberPage (pageInfo : List (Text × Json)) : Response :=
  .answered 200 (some (.obj [("results".toList, .arr [.str "acct-1".toList]),
    ("pageInfo".toList, .obj pageInfo)]))

/-- What Jira answers for the account. -/
def bobUser : Response :=
  .answered 200 (some (.obj [("emailAddress".toList, .str "bob@example.com".toList)]))

/-- Two pages that list the same account. -/
def repeatedAccount : List Response :=
  [memberPage [("hasNextPage".toList, .bool true), ("endCursor".toList, .str "c1".toList)],
    bobUser, memberPage [], bobUser]

/-- The members that are fetched from them, each of which can be merged. -/
def repeatedMembers : List MemberMerge :=
  (Atlassian.fetchTeamMembers asciiRendering storedOrderPlugin RefreshFailure.knownTeam
    repeatedAccount).map fun member => { member, now := 14401000000, raises := false }

/-- Fetched twice, one member keeps the team from being stored, and the object has changed all the
same. -/
theorem repeated_account_refused :
    repeatedMembers.map (fun merge => merge.member.email) =
        ["bob@example.com".toList, "bob@example.com".toList] ∧
      (lookupTeamMembers storedOrderPlugin repeatedMembers 14401000000 true
        RefreshFailure.knownTeam RefreshFailure.knownDb).raised = true ∧
      ¬ StoredOrUnchanged storedOrderPlugin repeatedMembers 14401000000 true
        RefreshFailure.knownTeam RefreshFailure.knownDb := by
  have refused : (lookupTeamMembers storedOrderPlugin repeatedMembers 14401000000 true
      RefreshFailure.knownTeam RefreshFailure.knownDb).raised = true := by
    decide +kernel
  refine ⟨by decide +kernel, refused, ?_⟩
  intro holds
  have members := (holds.unchanged refused).2.2.1
  exact absurd members (by decide +kernel)

/-- Two members that can be merged are stored, at readings of their own. -/
theorem two_members_stored :
    StoredOrUnchanged storedOrderPlugin
      [⟨.ofEmail "alice@example.com".toList, 14401000000, false⟩,
        ⟨.ofEmail "bob@example.com".toList, 14401000001, false⟩] 14401000002 true
      RefreshFailure.knownTeam RefreshFailure.knownDb := by
  apply ((stored_or_unchanged_iff _ _ _ _ _).2 _ (by decide)).mpr
  exact ⟨rfl, by decide, by simp⟩

end Example

end Thaum.Lookup.StoredMembers
