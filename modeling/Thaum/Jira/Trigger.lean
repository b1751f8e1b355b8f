import Thaum.Jira.MappingStore
import Thaum.Jira.Payload
import Thaum.Jira.Teams

/-!
# Triggering an alert

`trigger_alert` resolves the responders, posts the alert and records it in the
alert map. The responders come from the plugin's configuration or else from the
bot, and team ids are filled in from the plugin's team list; each of the two steps
fills that list when it is empty.

The calls made on the way are passed in with how they end, each if it is made, and
one clock reading serves all of them.
-/

namespace Thaum.Jira

open PyText PyJson PyRequests Lookup

/-- The settings of the plugin that an alert reads. -/
structure JiraConfig where
  responders : List Text
  priorityNormal : Text
  priorityHigh : Text

/-- The bot the plugin is attached to; a missing key is blank. -/
structure Bot where
  handle : Text
  botKey : Text
  teamDescription : Text
  responders : RespondersList
  lookupPlugin : Option LookupPlugin

/-- How the calls before the POST end: `GET /v1/teams` for the configured responders
and for the team ids, the transactions of `cache_team`, and the calls for the person
at each position. -/
structure AuxiliaryCalls where
  configTeams : Response
  enrichTeams : Response
  cacheCommits : Text → Bool
  emails : Nat → EmailCalls

/-- One reference of `_resolve_config_responders` for a bot without lookup plugin. -/
def resolvePersonRef (out : RespondersList) (raw : Text) : RespondersList :=
  let ref := strip raw
  if ref = [] then out
  else if startsWith (lower ref) "person:".toList then
    let email := strip (ref.drop 7)
    if email = [] then out else out.addPerson (.ofEmail email)
  else if ref.contains '@' && !startsWith (lower ref) "team:".toList then
    out.addPerson (.ofEmail ref)
  else out

variable (rendering : Rendering) (cfg : JiraConfig) (bot : Bot) (calls : AuxiliaryCalls)
  (now : Nat)

/-- What `_resolve_config_responders` makes of the references once the teams are listed. -/
def configResponders (names : TeamNames) (db : IdentityDb) : RespondersList :=
  match bot.lookupPlugin with
  | none => cfg.responders.foldl resolvePersonRef { people := [], teams := [] }
  | some plugin =>
    resolveResponderRefs plugin "jira_config".toList (canonicalTeamRef rendering · names) now db
      cfg.responders

/-- `_resolve_alert_responders`; `none` where it raises. -/
def resolveAlertResponders (names : TeamNames) (db : IdentityDb) :
    Option (RespondersList × TeamNames × IdentityDb) :=
  if cfg.responders = [] then some (bot.responders, names, db)
  else match refreshTeamCache rendering bot.lookupPlugin now calls.cacheCommits calls.configTeams
      names db with
  | none => none
  | some (names, db) => some (configResponders rendering cfg bot now names db, names, db)

/-- A team with its alert id filled in from the team list. -/
def enrichTeam (names : TeamNames) (team : ThaumTeam) : ThaumTeam :=
  if team.alertId.getD [] ≠ [] then team
  else
    let folded := rendering.casefold (strip team.teamName)
    let teamId := (names.idByFolded.lookup folded).getD []
    if folded = [] ∨ teamId = [] then team else { team with alertId := some teamId }

/-- `_enrich_team_alert_ids`; `none` where it raises. -/
def enrichTeamAlertIds (responders : RespondersList) (names : TeamNames) (db : IdentityDb) :
    Option (RespondersList × TeamNames × IdentityDb) :=
  match refreshTeamCache rendering bot.lookupPlugin now calls.cacheCommits calls.enrichTeams
      names db with
  | none => none
  | some (names, db) =>
    some ({ responders with teams := responders.teams.map (enrichTeam rendering names) }, names, db)

/-- The responders of an alert with their team ids; `none` where resolving raises. -/
def alertResponders (names : TeamNames) (db : IdentityDb) :
    Option (RespondersList × TeamNames × IdentityDb) :=
  match resolveAlertResponders rendering cfg bot calls now names db with
  | none => none
  | some (responders, names, db) =>
    enrichTeamAlertIds rendering bot calls now responders names db

/-- The part of `trigger_alert` before the POST: the body that is posted, and the team
list and identity cache left behind; `none` where it raises. -/
def prepareAlert (summary : Text) (sender : ThaumPerson) (priority : AlertPriority)
    (today shortId : Text) (names : TeamNames) (db : IdentityDb) :
    Option (AlertBody × TeamNames × IdentityDb) :=
  match alertResponders rendering cfg bot calls now names db with
  | none => none
  | some (responders, names, db) =>
    match respondersListToJiraPayload rendering bot.lookupPlugin now responders calls.emails db with
    | none => none
    | some (payload, db) =>
      some (buildTriggerAlertBody summary bot.handle sender priority cfg.priorityNormal
        cfg.priorityHigh today shortId payload, names, db)

/-- The part of `trigger_alert` after an accepted POST: the pending row, `none` where its
transaction raises. -/
def recordAlert (commits : Bool) (botKey roomId shortId : Text) (sender : ThaumPerson)
    (alert : AlertBody) (map : AlertMap) : Option AlertMap :=
  upsertPendingRow commits botKey alert.alertAlias shortId roomId sender.forDisplay map

/-- What `trigger_alert` did: the alert it posted if it got there, and the short id and
alias it returned if it did not raise. -/
structure Triggered where
  posted : Option AlertBody
  returned : Option (Text × Text)
  names : TeamNames
  cache : IdentityDb
  map : AlertMap

/-- `trigger_alert`, given the short id it draws, how the POST ends and whether the pending
row commits. What a raising resolution leaves in the team list and the cache is not
tracked. -/
def triggerAlert (post : Response) (commits : Bool) (summary roomId : Text)
    (sender : ThaumPerson) (priority : AlertPriority) (today shortId : Text) (names : TeamNames)
    (db : IdentityDb) (map : AlertMap) : Triggered :=
  match prepareAlert rendering cfg bot calls now summary sender priority today shortId names db with
  | none => { posted := none, returned := none, names, cache := db, map }
  | some (alert, names, cache) =>
    let recorded :=
      if post.ok then recordAlert commits bot.botKey roomId shortId sender alert map else none
    { posted := some alert, returned := recorded.map fun _ => (shortId, alert.alertAlias)
      names, cache, map := recorded.getD map }

/-- The people an alert pages: those of the configured references, or the bot's. -/
def pagedPeople : List ThaumPerson :=
  if cfg.responders = [] then bot.responders.people
  else (configResponders rendering cfg bot 0 .empty .empty).people

/-- Each `GET /v1/teams` that has to be made answers JSON: none where the list is
filled, and a second one where the first lists no team. -/
def TeamsAnswered (names : TeamNames) : Prop :=
  names.nameByFolded ≠ [] ∨
    (if cfg.responders = [] then calls.enrichTeams.json? ≠ none
    else ∃ payload, calls.configTeams.json? = some payload ∧
      ((listedTeams payload).filterMap (listedTeam rendering) ≠ [] ∨
        calls.enrichTeams.json? ≠ none))

/-- No person without a known account needs a user search that answers 200 with a body
that is not JSON. -/
def SearchesReadable : Prop :=
  ∀ i person, (pagedPeople rendering cfg bot)[i]? = some person → knownAccountId person = [] →
    SearchNeeded rendering bot.lookupPlugin person.email (calls.emails i) →
    ¬ Garbled (calls.emails i).search

/-- The entry is a team with an id or the account of a person among the responders. -/
def Resolves (responders : RespondersList) (entry : JiraResponder) : Prop :=
  (∃ team ∈ responders.teams, teamAlertId team ≠ [] ∧ entry = ⟨.team, teamAlertId team⟩) ∨
    ∃ i person accountId, responders.people[i]? = some person ∧
      HasAccount rendering bot.lookupPlugin now person (calls.emails i) accountId ∧
      entry = ⟨.user, accountId⟩

/-- The alert is posted with the responders that resolve. -/
def AlertPosted (post : Response) (commits : Bool) (summary roomId : Text)
    (sender : ThaumPerson) (priority : AlertPriority) (today shortId : Text) (names : TeamNames)
    (db : IdentityDb) (map : AlertMap) : Prop :=
  ∃ payload responders after afterDb,
    (triggerAlert rendering cfg bot calls now post commits summary roomId sender priority today
      shortId names db map).posted = some (buildTriggerAlertBody summary bot.handle sender priority
        cfg.priorityNormal cfg.priorityHigh today shortId payload) ∧
    alertResponders rendering cfg bot calls now names db = some (responders, after, afterDb) ∧
    responders.people = pagedPeople rendering cfg bot ∧
    ∀ entry, entry ∈ payload ↔ Resolves rendering bot calls now responders entry

variable {rendering cfg bot calls now} {names after : TeamNames} {db afterDb : IdentityDb}
  {responders : RespondersList}

/-- The people of the configured references do not depend on the team list or the cache. Only teams
are looked up while the references are read, and a person is taken as it is written. -/
theorem configResponders_people (names other : TeamNames) (db anyDb : IdentityDb)
    (anyTime : Nat) :
    (configResponders rendering cfg bot now names db).people =
      (configResponders rendering cfg bot anyTime other anyDb).people := by
  unfold configResponders
  cases bot.lookupPlugin with
  | none => rfl
  | some plugin => exact resolveResponderRefs_people _ _ _ _ _ _

/-- Filling in the team ids raises exactly where the list has to be fetched and is not answered. -/
theorem enrichTeamAlertIds_raises :
    enrichTeamAlertIds rendering bot calls now responders names db = none ↔
      names.nameByFolded = [] ∧ calls.enrichTeams.json? = none := by
  unfold enrichTeamAlertIds
  rw [← refreshTeamCache_raises]
  split
  · rename_i raised
    exact iff_of_true rfl raised
  · rename_i refreshed
    rw [refreshed]
    exact iff_of_false (Option.some_ne_none _) (Option.some_ne_none _)

/-- Resolving the responders raises exactly where a team list that is asked for is not answered. The
configured references ask first; the team ids ask again where the first answer listed no team. -/
theorem alertResponders_raises :
    alertResponders rendering cfg bot calls now names db = none ↔
      ¬ TeamsAnswered rendering cfg calls names := by
  unfold alertResponders resolveAlertResponders TeamsAnswered
  by_cases unconfigured : cfg.responders = []
  · rw [if_pos unconfigured, if_pos unconfigured]
    dsimp only
    rw [enrichTeamAlertIds_raises]
    tauto
  · rw [if_neg unconfigured, if_neg unconfigured]
    cases refreshed : refreshTeamCache rendering bot.lookupPlugin now calls.cacheCommits
        calls.configTeams names db with
    | none =>
      obtain ⟨empty, unread⟩ := refreshTeamCache_raises.mp refreshed
      simp [empty, unread]
    | some filled =>
      have answered : names.nameByFolded ≠ [] ∨ calls.configTeams.json? ≠ none := by
        by_contra neither
        rw [not_or, not_not, not_not] at neither
        rw [refreshTeamCache_raises.mpr neither] at refreshed
        simp at refreshed
      dsimp only
      rw [enrichTeamAlertIds_raises, refreshTeamCache_filled refreshed]
      cases body : calls.configTeams.json? with
      | none =>
        have listed := answered.resolve_right (not_not.mpr body)
        simp [listed]
      | some payload =>
        simp only [Option.some.injEq, forall_eq', exists_eq_left']
        tauto

/-- The people of an alert are those it pages, whatever the team list and the cache hold. Filling in
the team ids leaves them alone. -/
theorem alertResponders_people
    (resolved : alertResponders rendering cfg bot calls now names db =
      some (responders, after, afterDb)) : responders.people = pagedPeople rendering cfg bot := by
  unfold alertResponders at resolved
  cases found : resolveAlertResponders rendering cfg bot calls now names db with
  | none => simp [found] at resolved
  | some first =>
    obtain ⟨unfilled, listed, cache⟩ := first
    have people : unfilled.people = pagedPeople rendering cfg bot := by
      unfold resolveAlertResponders at found
      unfold pagedPeople
      split at found
      · rename_i unconfigured
        rw [if_pos unconfigured]
        obtain ⟨rfl, -⟩ := Prod.mk.inj (Option.some.inj found)
        rfl
      · rename_i configured
        rw [if_neg configured]
        split at found
        · simp at found
        · obtain ⟨rfl, -⟩ := Prod.mk.inj (Option.some.inj found)
          exact configResponders_people _ _ _ _ _
    rw [found] at resolved
    dsimp only [enrichTeamAlertIds] at resolved
    split at resolved
    · simp at resolved
    · obtain ⟨rfl, -⟩ := Prod.mk.inj (Option.some.inj resolved)
      exact people

/-- Listing the responders raises exactly at an unreadable search: one that is needed for a person
without an account and answers 200 with a body that is not JSON. -/
theorem payload_raises (paged : responders.people = pagedPeople rendering cfg bot) :
    respondersListToJiraPayload rendering bot.lookupPlugin now responders calls.emails db = none ↔
      ¬ SearchesReadable rendering cfg bot calls := by
  rw [respondersListToJiraPayload, addPeople_raises, paged, SearchesReadable]
  simp only [Nat.zero_add]
  push Not
  rfl

section Prepared

variable {sender : ThaumPerson} {priority : AlertPriority} {today shortId : Text}

/-- Something is posted exactly where the team lists and the user searches can be read. These are
the only two exceptions that escape before the POST. -/
theorem prepareAlert_isSome (summary : Text) :
    (prepareAlert rendering cfg bot calls now summary sender priority today shortId names
        db).isSome = true ↔
      TeamsAnswered rendering cfg calls names ∧ SearchesReadable rendering cfg bot calls := by
  unfold prepareAlert
  cases resolved : alertResponders rendering cfg bot calls now names db with
  | none => simp [alertResponders_raises.mp resolved]
  | some found =>
    obtain ⟨responders, listed, cache⟩ := found
    have answered : TeamsAnswered rendering cfg calls names := by
      by_contra unanswered
      rw [alertResponders_raises.mpr unanswered] at resolved
      simp at resolved
    have paged := alertResponders_people resolved
    cases payload : respondersListToJiraPayload rendering bot.lookupPlugin now responders
        calls.emails cache with
    | none => simp [(payload_raises paged).mp payload, payload]
    | some built =>
      have readable : SearchesReadable rendering cfg bot calls := by
        by_contra unreadable
        rw [(payload_raises paged).mpr unreadable] at payload
        simp at payload
      simp [payload, answered, readable]

/-- What is posted is built from the responders that were resolved. The lemma names the intermediate
values, the responders and their entries, that the body was made of. -/
theorem prepareAlert_some {summary : Text} {built : AlertBody × TeamNames × IdentityDb}
    (prepared : prepareAlert rendering cfg bot calls now summary sender priority today shortId names
      db = some built) : ∃ responders listed cache entries merged,
        alertResponders rendering cfg bot calls now names db = some (responders, listed, cache) ∧
        respondersListToJiraPayload rendering bot.lookupPlugin now responders calls.emails cache =
          some (entries, merged) ∧
        built.1 = buildTriggerAlertBody summary bot.handle sender priority cfg.priorityNormal
          cfg.priorityHigh today shortId entries := by
  unfold prepareAlert at prepared
  cases resolved : alertResponders rendering cfg bot calls now names db with
  | none => simp [resolved] at prepared
  | some found =>
    obtain ⟨responders, listed, cache⟩ := found
    cases payload : respondersListToJiraPayload rendering bot.lookupPlugin now responders
        calls.emails cache with
    | none => simp [resolved, payload] at prepared
    | some resolvedEntries =>
      obtain ⟨entries, merged⟩ := resolvedEntries
      simp only [resolved, payload, Option.some.injEq] at prepared
      exact ⟨responders, listed, cache, entries, merged, rfl, payload, by rw [← prepared]⟩

end Prepared

/-- The alert is posted with the responders that resolve exactly where each team list that is asked
for and each user search that is needed can be read.

Proof: the condition is the one under which anything is prepared for the POST at all. Where it
fails, nothing is posted. Where it holds, the prepared body was built from the resolved responders,
whose people are those the alert pages, and an entry is listed exactly for those that resolve. -/
theorem alert_posted_iff (rendering : Rendering) (cfg : JiraConfig) (bot : Bot)
    (calls : AuxiliaryCalls) (now : Nat) (post : Response) (commits : Bool)
    (summary roomId : Text) (sender : ThaumPerson) (priority : AlertPriority)
    (today shortId : Text) (names : TeamNames) (db : IdentityDb) (map : AlertMap) :
    AlertPosted rendering cfg bot calls now post commits summary roomId sender priority today
        shortId names db map ↔
      TeamsAnswered rendering cfg calls names ∧ SearchesReadable rendering cfg bot calls := by
  rw [← prepareAlert_isSome summary]
  unfold AlertPosted triggerAlert
  cases prepared : prepareAlert rendering cfg bot calls now summary sender priority today shortId
      names db with
  | none => simp
  | some built =>
    obtain ⟨responders, listed, cache, entries, merged, resolved, payload, body⟩ :=
      prepareAlert_some prepared
    refine iff_of_true ?_ rfl
    refine ⟨entries, responders, listed, cache, congrArg some body, resolved, ?_, ?_⟩
    · exact alertResponders_people resolved
    · exact fun entry => mem_respondersListToJiraPayload payload

section Example

/-- A bot that pages one person, whose account is not known. -/
def exampleBot : Bot where
  handle := "oncall".toList
  botKey := "sre".toList
  teamDescription := "Site Reliability".toList
  responders := { people := [.ofEmail "alice@example.com".toList], teams := [] }
  lookupPlugin := none

/-- The plugin without responders of its own. -/
def exampleConfig : JiraConfig where
  responders := []
  priorityNormal := "P3".toList
  priorityHigh := "P1".toList

/-- `GET /v1/teams` fails, and the user search answers an HTML page. -/
def failingCalls : AuxiliaryCalls where
  configTeams := .raised
  enrichTeams := .raised
  cacheCommits _ := true
  emails _ := { lookup := .raised, search := .answered 200 none, mergeCommits := true }

/-- `GET /v1/teams` answers, and only the user search is unreadable. -/
def unreadableSearch : AuxiliaryCalls :=
  { failingCalls with enrichTeams := .answered 200 (some (.arr [])) }

/-- The example's alert, raised with the given answers from empty team lists, cache and alert
map. -/
def triggered (calls : AuxiliaryCalls) : Triggered :=
  triggerAlert asciiRendering exampleConfig exampleBot calls 0 (.answered 202 none) true
    "disk full".toList "room".toList (.ofEmail "bob@example.com".toList) .normal
    "20260101".toList "ABCD".toList .empty .empty .empty

/-- Nobody is paged where the team list fails, or where a search answers 200 with a body that is not
JSON. The POST itself would have been accepted in both runs. -/
theorem failed_lookup_suppresses_alert :
    (triggered failingCalls).posted = none ∧ (triggered unreadableSearch).posted = none := by
  decide +kernel

end Example

end Thaum.Jira
