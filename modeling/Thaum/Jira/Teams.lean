import Thaum.Library.PyRequests
import Thaum.Lookup.Teams

/-!
# The team list of the Jira plugin

The plugin keeps two dictionaries from folded team names to the team names and
ids of Jira Operations. They are filled from `GET /v1/teams` when they are empty,
which also stores every listed team in the identity cache. Names are folded by
the rules of the whole of Unicode.
-/

namespace Thaum.Jira

open PyText PyJson PyRequests KeyedRows Lookup

/-- `_team_name_by_folded` and `_team_id_by_folded`. -/
structure TeamNames where
  nameByFolded : List (Text × Text)
  idByFolded : List (Text × Text)
deriving DecidableEq

/-- The dictionaries of a plugin that has listed no team yet. -/
def TeamNames.empty : TeamNames := { nameByFolded := [], idByFolded := [] }

/-- `canonical_team_ref`. -/
def canonicalTeamRef (rendering : Rendering) (teamRef : Text) (names : TeamNames) : Text :=
  let trimmed := strip teamRef
  let name :=
    if startsWith (lower trimmed) "team:".toList then strip (trimmed.drop 5) else trimmed
  orElse ((names.nameByFolded.lookup (rendering.casefold name)).getD []) name

/-- The entries of the payload of `GET /v1/teams`. -/
def listedTeams (payload : Json) : List Json :=
  match payload with
  | .arr items => items
  | .obj fields => (getDefault "platformTeams".toList (.arr []) fields).items?.getD []
  | _ => []

/-- The name and id of an entry, `none` where the loop skips it. -/
def listedTeam (rendering : Rendering) (item : Json) : Option (Text × Text) :=
  match item.fields? with
  | none => none
  | some fields =>
    let teamName := strip (pyStr rendering (getDefault "teamName".toList (.str []) fields))
    let teamId := strip (pyStr rendering (getDefault "teamId".toList (.str []) fields))
    if teamName = [] ∨ teamId = [] then none else some (teamName, teamId)

/-- The dictionaries after one listed team. -/
def TeamNames.add (rendering : Rendering) (names : TeamNames) (team : Text × Text) : TeamNames :=
  { nameByFolded := put Prod.fst (rendering.casefold team.1, team.1) names.nameByFolded
    idByFolded := put Prod.fst (rendering.casefold team.1, team.2) names.idByFolded }

/-- One listed team stored in the identity cache; a failing `cache_team` is logged. -/
def cacheListedTeam (lookup : Option LookupPlugin) (now : Nat) (commits : Text → Bool)
    (db : IdentityDb) (team : Text × Text) : IdentityDb :=
  match lookup with
  | none => db
  | some plugin =>
    (cacheTeam plugin (.ofId team.1 team.2 now) (some ("jira".toList, team.2)) (commits team.1)
      db).getD db

/-- `refresh_team_cache`, given how `GET /v1/teams` ends if it is made; `none` where
it raises. -/
def refreshTeamCache (rendering : Rendering) (lookup : Option LookupPlugin) (now : Nat)
    (commits : Text → Bool) (response : Response) (names : TeamNames) (db : IdentityDb) :
    Option (TeamNames × IdentityDb) :=
  if names.nameByFolded ≠ [] then some (names, db)
  else match response.json? with
    | none => none
    | some payload =>
      let teams := (listedTeams payload).filterMap (listedTeam rendering)
      some (teams.foldl (TeamNames.add rendering) names,
        teams.foldl (cacheListedTeam lookup now commits) db)

variable {rendering : Rendering} {lookup : Option LookupPlugin} {now : Nat}
  {commits : Text → Bool} {response : Response} {names after : TeamNames}
  {db afterDb : IdentityDb}

/-- The refresh raises exactly where the dictionaries are empty, so that the list has to be fetched,
and the answer is not a successful one with a JSON body. -/
theorem refreshTeamCache_raises :
    refreshTeamCache rendering lookup now commits response names db = none ↔
      names.nameByFolded = [] ∧ response.json? = none := by
  unfold refreshTeamCache
  by_cases filled : names.nameByFolded = []
  · cases body : response.json? with
    | none => simp [filled]
    | some payload => simp [filled]
  · simp [filled]

/-- Adding listed teams leaves the dictionaries empty only where they were and nothing was added.
The induction is on the list, since every added team fills them. -/
theorem TeamNames.foldl_add_filled {teams : List (Text × Text)} (names : TeamNames) :
    (teams.foldl (TeamNames.add rendering) names).nameByFolded = [] ↔
      names.nameByFolded = [] ∧ teams = [] := by
  induction teams generalizing names with
  | nil => simp
  | cons team rest inductionHypothesis =>
    rw [List.foldl_cons, inductionHypothesis]
    have added : (names.add rendering team).nameByFolded ≠ [] := List.ne_nil_of_mem mem_put_self
    simp [added]

/-- A refresh leaves the dictionaries empty exactly where they were and no team is listed. The
second refresh of an alert then asks again, which is why two answers can be needed. -/
theorem refreshTeamCache_filled
    (refreshed : refreshTeamCache rendering lookup now commits response names db =
      some (after, afterDb)) :
    after.nameByFolded = [] ↔ names.nameByFolded = [] ∧ ∀ payload, response.json? = some payload →
      (listedTeams payload).filterMap (listedTeam rendering) = [] := by
  unfold refreshTeamCache at refreshed
  by_cases filled : names.nameByFolded = []
  · rw [if_neg (not_not.mpr filled)] at refreshed
    cases body : response.json? with
    | none => simp [body] at refreshed
    | some payload =>
      simp only [body, Option.some.injEq, Prod.mk.injEq] at refreshed
      obtain ⟨rfl, -⟩ := refreshed
      rw [TeamNames.foldl_add_filled]
      simp
  · rw [if_pos filled] at refreshed
    obtain ⟨rfl, -⟩ := Prod.mk.inj (Option.some.inj refreshed)
    simp [filled]

end Thaum.Jira
