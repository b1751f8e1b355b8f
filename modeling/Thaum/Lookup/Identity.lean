import Thaum.Library.KeyedRows
import Thaum.Types

/-!
# The identity cache

People are stored by email, and every platform id by platform key and id with the
email it belongs to. Teams are stored by name with the time and lifetime of their
membership snapshot; the members and the platform ids of a team have tables of
their own. Here are the tables, the people operations of `BaseLookupPlugin` and
the values they hand out.

Clock readings count microseconds since the epoch and lifetimes whole seconds. A
query that has no single answer sees the rows in an order the database is free to
choose, so the orders are passed in, as is the closest-match search of `difflib`.
-/

namespace Thaum.Lookup

open PyText KeyedRows

/-- A row of the people table. -/
structure SchemaPerson where
  email : Text
  displayName : Option Text
  sourcePlugin : Option Text
  nameLastUpdated : Nat
deriving DecidableEq

/-- A row of the platform ids, with the email the id belongs to. -/
structure SchemaPlatformId where
  platformKey : Text
  platformId : Text
  email : Text
deriving DecidableEq

/-- A row of the teams, with the stamp and lifetime of the membership snapshot. -/
structure SchemaTeam where
  teamName : Text
  lastCached : Nat
  ttl : Int
deriving DecidableEq

/-- A row of the team members. -/
structure SchemaTeamMember where
  teamName : Text
  email : Text
deriving DecidableEq

/-- A row of the platform ids of teams. -/
structure SchemaTeamPlatformId where
  platformKey : Text
  platformId : Text
  teamName : Text
deriving DecidableEq

/-- The tables of the cache. -/
structure IdentityDb where
  people : List SchemaPerson
  platformIds : List SchemaPlatformId
  teams : List SchemaTeam
  teamMembers : List SchemaTeamMember
  teamPlatformIds : List SchemaTeamPlatformId
deriving DecidableEq

/-- Tables without rows. -/
def IdentityDb.empty : IdentityDb :=
  { people := [], platformIds := [], teams := [], teamMembers := [], teamPlatformIds := [] }

/-- The primary key of a platform id. -/
def SchemaPlatformId.key (row : SchemaPlatformId) : Text × Text :=
  (row.platformKey, row.platformId)

/-- The primary key of a team's platform id. -/
def SchemaTeamPlatformId.key (row : SchemaTeamPlatformId) : Text × Text :=
  (row.platformKey, row.platformId)

/-- The settings of a lookup plugin, and what the database decides for it. -/
structure LookupPlugin where
  pluginName : Text
  defaultTeamTtlSeconds : Int
  /-- Whether a member row needs the person row it refers to. -/
  enforcesForeignKeys : Bool
  platformIdOrder : Scan SchemaPlatformId
  teamOrder : Scan SchemaTeam
  teamPlatformIdOrder : Scan SchemaTeamPlatformId
  teamMemberOrder : Scan SchemaTeamMember
  /-- `get_close_matches(name, names, n=1, cutoff=0.88)`. -/
  closeMatch : (name : Text) → (names : List Text) → Option Text

/-- `ONE_WEEK`, in microseconds. -/
def oneWeek : Nat := 604800000000

variable (plugin : LookupPlugin)

/-- `_get_person_by_email`. -/
def readPersonByEmail (db : IdentityDb) (email : Text) : Option ThaumPerson :=
  match get SchemaPerson.email email db.people with
  | none => none
  | some row =>
    let rows := (plugin.platformIdOrder.order db.platformIds).filter fun row => row.email == email
    some
      { email := row.email
        displayName := some (row.displayName.getD [])
        platformIds := rows.foldl
          (fun ids row => put Prod.fst (row.platformKey, row.platformId) ids) []
        sourcePlugin := orElse (row.sourcePlugin.getD []) plugin.pluginName }

/-- `get_person_by_id` of the base plugin. -/
def getPersonById (db : IdentityDb) (botPluginName personId : Text) : Option ThaumPerson :=
  match get SchemaPlatformId.key (botPluginName, personId) db.platformIds with
  | none => none
  | some row => if row.email = [] then none else readPersonByEmail plugin db row.email

/-- `_get_cached_person_by_email`, and `get_person_by_email` of the base plugin. -/
def getCachedPersonByEmail (db : IdentityDb) (email : Text) : Option ThaumPerson :=
  let key := strip email
  if key = [] then none else readPersonByEmail plugin db key

/-- The people row after merging a fragment into the one stored for its email. -/
def mergedRow (now : Nat) (fragment : ThaumPerson) : Option SchemaPerson → SchemaPerson
  | none =>
    { email := fragment.email, displayName := fragment.displayName
      sourcePlugin := some fragment.sourcePlugin, nameLastUpdated := now }
  | some existing =>
    let shouldUpdateName :=
      strip (existing.displayName.getD []) = [] ∨ existing.nameLastUpdated + oneWeek < now
    if shouldUpdateName ∧ fragment.displayName.getD [] ≠ [] then
      { existing with
        displayName := fragment.displayName, sourcePlugin := some fragment.sourcePlugin
        nameLastUpdated := now }
    else existing

/-- Bind a platform id to an email unless it is bound already. -/
def bindPlatformId (email : Text) (rows : List SchemaPlatformId) (id : Text × Text) :
    List SchemaPlatformId :=
  match get SchemaPlatformId.key id rows with
  | some _ => rows
  | none => rows ++ [{ platformKey := id.1, platformId := id.2, email }]

/-- The tables after `merge_person`. -/
def mergePersonDb (now : Nat) (fragment : ThaumPerson) (db : IdentityDb) : IdentityDb :=
  { db with
    people := put SchemaPerson.email
      (mergedRow now fragment (get SchemaPerson.email fragment.email db.people)) db.people
    platformIds := fragment.platformIds.foldl (bindPlatformId fragment.email) db.platformIds }

/-- `merge_person`; the row it reads back is there, so the assertion holds. -/
def mergePerson (now : Nat) (fragment : ThaumPerson) (db : IdentityDb) : IdentityDb × ThaumPerson :=
  let db := mergePersonDb now fragment db
  (db, (readPersonByEmail plugin db fragment.email).getD fragment)

variable {plugin} {now : Nat} {fragment person : ThaumPerson} {db : IdentityDb} {email : Text}

/-- A merged row is the fragment's, as the one it was found in. -/
@[simp] theorem mergedRow_email (stored : Option SchemaPerson)
    (keyed : ∀ row ∈ stored, row.email = fragment.email) :
    (mergedRow now fragment stored).email = fragment.email := by
  cases stored with
  | none => rfl
  | some existing =>
    simp only [mergedRow]
    split
    · exact keyed existing rfl
    · exact keyed existing rfl

/-- A person read by an email has that email. -/
theorem readPersonByEmail_email (read : readPersonByEmail plugin db email = some person) :
    person.email = email := by
  unfold readPersonByEmail at read
  split at read
  · simp at read
  · rename_i row found
    obtain rfl := Option.some.inj read
    exact (get_some found).2

/-- A person row is stored for the email. -/
def Known (db : IdentityDb) (email : Text) : Prop := ∃ row ∈ db.people, row.email = email

/-- Somebody is read exactly by the emails that have a row. -/
theorem readPersonByEmail_isSome :
    (readPersonByEmail plugin db email).isSome = true ↔ Known db email := by
  unfold readPersonByEmail
  split
  · rename_i absent
    simpa [Known] using get_none_iff.mp absent
  · rename_i row found
    simpa [Known] using ⟨row, get_some found⟩

/-- The people row a merge stores is the fragment's. -/
theorem storedRow_email :
    (mergedRow now fragment (get SchemaPerson.email fragment.email db.people)).email =
      fragment.email :=
  mergedRow_email _ fun _ found => (get_some found).2

/-- The person of a merged fragment is stored. -/
theorem known_mergePersonDb_self : Known (mergePersonDb now fragment db) fragment.email :=
  ⟨_, mem_put_self, storedRow_email⟩

/-- Merging a person forgets none, so whoever was stored before a run of merges is stored after
it. -/
theorem known_mergePersonDb (known : Known db email) :
    Known (mergePersonDb now fragment db) email := by
  obtain ⟨row, stored, keyed⟩ := known
  by_cases same : row.email = fragment.email
  · exact (keyed.symm.trans same) ▸ known_mergePersonDb_self
  · exact ⟨row, mem_put_other stored (by rwa [storedRow_email]), keyed⟩

/-- The people stored after a merge are those before and the fragment's. -/
theorem known_mergePersonDb_iff :
    Known (mergePersonDb now fragment db) email ↔ Known db email ∨ fragment.email = email := by
  constructor
  · rintro ⟨row, stored, keyed⟩
    rcases mem_put stored with rfl | ⟨before, _⟩
    · exact Or.inr (storedRow_email.symm.trans keyed)
    · exact Or.inl ⟨row, before, keyed⟩
  · rintro (before | rfl)
    · exact known_mergePersonDb before
    · exact known_mergePersonDb_self

/-- The merged person has the fragment's email. -/
theorem mergePerson_email : (mergePerson plugin now fragment db).2.email = fragment.email := by
  simp only [mergePerson]
  cases read : readPersonByEmail plugin (mergePersonDb now fragment db) fragment.email with
  | none => rfl
  | some person => exact readPersonByEmail_email read

/-- A plugin over a database that answers in stored order. -/
def storedOrderPlugin : LookupPlugin where
  pluginName := "atlassian".toList
  defaultTeamTtlSeconds := 14400
  enforcesForeignKeys := true
  platformIdOrder := .stored
  teamOrder := .stored
  teamPlatformIdOrder := .stored
  teamMemberOrder := .stored
  closeMatch _ _ := none

end Thaum.Lookup
