import Thaum.Library.PyRequests
import Thaum.Lookup.Teams

/-!
# The Atlassian lookup plugin

Teams come from the Public Teams API in pages that name the cursor of the next
one, members of a team as pages of account ids, and each account from Jira. The
remote side is the list of the responses it gives, in the order of the requests;
once they are used up every further request fails.

Preloading at leader init stores all teams without members. `fetch_team_members`
turns every exception on the way into an empty list and skips the members whose
user request failed.
-/

namespace Thaum.Lookup.Atlassian

open PyText PyJson PyRequests KeyedRows

/-- The first response, and those that are left; a request beyond the last fails. -/
def nextResponse : List Response → Response × List Response
  | [] => (.raised, [])
  | response :: rest => (response, rest)

/-- The entities of a page of the team list, and its cursor. -/
def readTeamPage (payload : Json) : List Json × Option Text :=
  match payload.fields? with
  | none => ([], none)
  | some fields =>
    let cursor := match get "cursor".toList fields with
      | .str cursor => orNone (strip cursor)
      | _ => none
    ((get "entities".toList fields).items?.getD [], cursor)

/-- The pages `_iter_team_pages` yields before it ends or a request raises. Every
turn takes a response, so the count of responses bounds the turns. -/
def iterTeamPages : List Response → List (List Json)
  | [] => []
  | response :: rest =>
    match response.json? with
    | none => []
    | some payload =>
      match readTeamPage payload with
      | (entities, none) => [entities]
      | (entities, some _) => entities :: iterTeamPages rest

/-- The id and display name of a team entry, `none` where the loop skips it. -/
def preloadedTeam (rendering : Rendering) (item : Json) : Option (Text × Text) :=
  match item.fields? with
  | none => none
  | some fields =>
    let teamId := strip (strOrBlank rendering (get "teamId".toList fields))
    let display := strip (strOrBlank rendering (get "displayName".toList fields))
    if teamId = [] ∨ display = [] then none else some (display, teamId)

/-- One preloaded team: no members, and cached at time zero so that it is stale. -/
def cachePreloadedTeam (plugin : LookupPlugin) (commits : Text → Bool) (db : IdentityDb)
    (team : Text × Text) : IdentityDb :=
  (cacheTeam plugin (.ofId team.1 team.2 0) (some ("jira".toList, team.2)) (commits team.1)
    db).getD db

/-- `preload_teams_cache`. -/
def preloadTeamsCache (rendering : Rendering) (plugin : LookupPlugin) (commits : Text → Bool)
    (responses : List Response) (db : IdentityDb) : IdentityDb :=
  ((iterTeamPages responses).flatten.filterMap (preloadedTeam rendering)).foldl
    (cachePreloadedTeam plugin commits) db

/-- The account id of a member entry. -/
def memberAccountId (item : Json) : Option Text :=
  let trimmed (value : Json) : Option Text :=
    match value with
    | .str id => orNone (strip id)
    | _ => none
  match item with
  | .obj fields =>
    let accountId := get "accountId".toList fields
    trimmed (if accountId.truthy then accountId else get "id".toList fields)
  | item => trimmed item

/-- `_extract_account_ids_from_members_payload`. -/
def extractAccountIds (fields : List (Text × Json)) : List Text :=
  let keys := ["results".toList, "entities".toList, "members".toList, "accountIds".toList]
  let ids := keys.flatMap fun key =>
    ((get key fields).items?.getD []).filterMap memberAccountId
  ids.foldl (fun out id => if id ∈ out then out else out ++ [id]) []

/-- The cursor of the next page of members. -/
def nextMemberCursor (fields : List (Text × Json)) : Option Text :=
  match (get "pageInfo".toList fields).fields? with
  | none => none
  | some pageInfo =>
    if !(get "hasNextPage".toList pageInfo).truthy then none
    else match get "endCursor".toList pageInfo with
      | .str cursor => orNone (strip cursor)
      | _ => none

/-- `_fetch_jira_user`. -/
def fetchJiraUser (rendering : Rendering) (plugin : LookupPlugin) (accountId : Text)
    (response : Response) : Option ThaumPerson :=
  match response.json?.bind Json.fields? with
  | none => none
  | some user =>
    let email := rendering.key (strOrBlank rendering (get "emailAddress".toList user))
    let display := strip (strOrBlank rendering (get "displayName".toList user))
    if email = [] then none
    else some
      { email, displayName := some display, platformIds := [("jira".toList, accountId)]
        sourcePlugin := plugin.pluginName }

/-- The people of some accounts, one user request each, and the responses left. -/
def fetchUsers (rendering : Rendering) (plugin : LookupPlugin) :
    List Text → List Response → List ThaumPerson × List Response
  | [], responses => ([], responses)
  | accountId :: rest, responses =>
    let (response, left) := nextResponse responses
    let (people, left) := fetchUsers rendering plugin rest left
    ((fetchJiraUser rendering plugin accountId response).toList ++ people, left)

/-- The pages of members with their user requests; `none` where a page raises. Each
page takes a response, so the fuel is the number of responses. -/
def fetchMemberPages (rendering : Rendering) (plugin : LookupPlugin) :
    Nat → List Response → Option (List ThaumPerson)
  | 0, _ => none
  | fuel + 1, responses =>
    let (response, left) := nextResponse responses
    match response.json? with
    | none => none
    | some payload =>
      match payload.fields? with
      | none => some []
      | some fields =>
        let (people, left) := fetchUsers rendering plugin (extractAccountIds fields) left
        match nextMemberCursor fields with
        | none => some people
        | some _ => (fetchMemberPages rendering plugin fuel left).map (people ++ ·)

/-- `fetch_team_members`. -/
def fetchTeamMembers (rendering : Rendering) (plugin : LookupPlugin) (team : ThaumTeam)
    (responses : List Response) : List ThaumPerson :=
  let teamId := strip (orElse (team.lookupId.getD []) (team.alertId.getD []))
  if teamId = [] then []
  else (fetchMemberPages rendering plugin (responses.length + 1) responses).getD []

variable {rendering : Rendering} {plugin : LookupPlugin}

/-- Asking for people takes responses and gives none back. -/
theorem fetchUsers_left (rendering : Rendering) (plugin : LookupPlugin) (accountIds : List Text)
    (responses : List Response) :
    (fetchUsers rendering plugin accountIds responses).2.length ≤ responses.length := by
  induction accountIds generalizing responses with
  | nil => exact le_rfl
  | cons accountId rest inductionHypothesis =>
    cases responses with
    | nil => exact inductionHypothesis []
    | cons response left => exact (inductionHypothesis left).trans (Nat.le_succ left.length)

/-- One turn for each response is enough: more fuel changes nothing. Each page takes at least one
response, so the fuel never cuts the walk short. -/
theorem fetchMemberPages_fuel (fuel : Nat) (responses : List Response)
    (enough : responses.length < fuel) :
    fetchMemberPages rendering plugin (fuel + 1) responses =
      fetchMemberPages rendering plugin fuel responses := by
  induction fuel generalizing responses with
  | zero => exact absurd enough (Nat.not_lt_zero _)
  | succ fuel inductionHypothesis =>
    cases responses with
    | nil => simp [fetchMemberPages, nextResponse, Response.json?]
    | cons response left =>
      rw [fetchMemberPages, fetchMemberPages]
      cases read : response.json? with
      | none => simp only [nextResponse, read]
      | some payload =>
        cases listed : payload.fields? with
        | none => simp only [nextResponse, read, listed]
        | some fields =>
          have shorter := fetchUsers_left rendering plugin (extractAccountIds fields) left
          have fewer : left.length < fuel := Nat.lt_of_succ_lt_succ enough
          simp only [nextResponse, read, listed,
            inductionHypothesis _ (Nat.lt_of_le_of_lt shorter fewer)]

end Thaum.Lookup.Atlassian
