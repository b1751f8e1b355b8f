import Thaum.Jira.Users
import Thaum.Lookup.Teams

/-!
# The alert posted to Jira

The responders of an alert become a list of team and user ids without repetition,
teams first. A person's id is the one in the platform ids or what the email
resolves to; the calls made for the person at a position of the list are those
given for the position.
-/

namespace Thaum.Jira

open PyText PyJson PyRequests KeyedRows Lookup

/-- The type of a responder. -/
inductive ResponderType where
  | team | user
deriving DecidableEq

/-- An entry of `responders`. -/
structure JiraResponder where
  type : ResponderType
  id : Text
deriving DecidableEq

/-- Add an entry unless its key was seen. -/
def addResponder (payload : List JiraResponder) (entry : JiraResponder) : List JiraResponder :=
  if entry ∈ payload then payload else payload ++ [entry]

/-- `(team.alert_id or team.lookup_id or "").strip()`. -/
def teamAlertId (team : ThaumTeam) : Text :=
  strip (orElse (team.alertId.getD []) (team.lookupId.getD []))

/-- The turn of the loop for a team. -/
def addTeam (payload : List JiraResponder) (team : ThaumTeam) : List JiraResponder :=
  if teamAlertId team = [] then payload else addResponder payload ⟨.team, teamAlertId team⟩

/-- The trimmed Jira id among a person's platform ids. -/
def knownAccountId (person : ThaumPerson) : Text :=
  strip ((person.platformIds.lookup "jira".toList).getD [])

variable (rendering : Rendering) (lookup : Option LookupPlugin) (now : Nat)

/-- The account id of a person, blank for none; `none` where resolving raises. -/
def personAccountId (person : ThaumPerson) (calls : EmailCalls) (db : IdentityDb) :
    Option (Text × IdentityDb) :=
  if knownAccountId person ≠ [] then some (knownAccountId person, db)
  else (resolveEmailToAccountId rendering lookup now person.email calls db).map fun resolved =>
    (resolved.1.getD [], resolved.2)

/-- The turn of the loop for an account. -/
def addPerson (payload : List JiraResponder) (accountId : Text) : List JiraResponder :=
  if accountId = [] then payload else addResponder payload ⟨.user, accountId⟩

/-- The loop over the people, from the calls of the first of them on. -/
def addPeople (calls : Nat → EmailCalls) :
    Nat → List ThaumPerson → List JiraResponder → IdentityDb →
      Option (List JiraResponder × IdentityDb)
  | _, [], payload, db => some (payload, db)
  | position, person :: rest, payload, db =>
    match personAccountId rendering lookup now person (calls position) db with
    | none => none
    | some (accountId, db) => addPeople calls (position + 1) rest (addPerson payload accountId) db

/-- `responders_list_to_jira_payload`; `none` where it raises. -/
def respondersListToJiraPayload (responders : RespondersList) (calls : Nat → EmailCalls)
    (db : IdentityDb) : Option (List JiraResponder × IdentityDb) :=
  addPeople rendering lookup now calls 0 responders.people (responders.teams.foldl addTeam []) db

/-- The body of `POST /v1/alerts`; the tags are absent when there are none. -/
structure AlertBody where
  message : Text
  source : Text
  alertAlias : Text
  priority : Text
  responders : List JiraResponder
  sender : Text
  shortId : Text
  tags : List Text
deriving DecidableEq

/-- The display part of `build_sender_extra_properties`. -/
def senderExtraName (sender : ThaumPerson) : Text :=
  orElse (strip (sender.displayName.getD [])) "Someone".toList

/-- `THAUM-<date>-<short id>`. -/
def datedAlias (today shortId : Text) : Text := "THAUM-".toList ++ today ++ '-' :: shortId

/-- `build_trigger_alert_body`, with the date as `%Y%m%d`. -/
def buildTriggerAlertBody (summary botHandle : Text) (sender : ThaumPerson)
    (priority : AlertPriority) (priorityNormal priorityHigh today shortId : Text)
    (responders : List JiraResponder) : AlertBody where
  message := summary
  source := botHandle
  alertAlias := datedAlias today shortId
  priority := if priority = .high then priorityHigh else priorityNormal
  responders := responders
  sender := senderExtraName sender
  shortId := shortId
  tags := if priority = .high then ["OverrideQuietHours".toList, "HighPriority".toList] else []

variable {rendering lookup now} {payload : List JiraResponder} {calls : Nat → EmailCalls}
  {db : IdentityDb} {people : List ThaumPerson} {person : ThaumPerson} {entry : JiraResponder}

/-- Adding an entry adds it, whether or not its key was seen. -/
theorem mem_addResponder {added : JiraResponder} :
    entry ∈ addResponder payload added ↔ entry ∈ payload ∨ entry = added := by
  unfold addResponder
  split
  · rename_i seen
    constructor
    · exact Or.inl
    · rintro (old | rfl)
      · exact old
      · exact seen
  · simp

/-- A person adds the account, if one was found. -/
theorem mem_addPerson {accountId : Text} :
    entry ∈ addPerson payload accountId ↔
      entry ∈ payload ∨ accountId ≠ [] ∧ entry = ⟨.user, accountId⟩ := by
  unfold addPerson
  by_cases blank : accountId = []
  · simp [blank]
  · simp [blank, mem_addResponder]

/-- The loop over the teams adds those with an id. -/
theorem mem_foldl_addTeam {teams : List ThaumTeam} :
    entry ∈ teams.foldl addTeam payload ↔ entry ∈ payload ∨
      ∃ team ∈ teams, teamAlertId team ≠ [] ∧ entry = ⟨.team, teamAlertId team⟩ := by
  induction teams generalizing payload with
  | nil => simp
  | cons team rest inductionHypothesis =>
    rw [List.foldl_cons, inductionHypothesis, List.exists_mem_cons_iff, ← or_assoc]
    apply or_congr_left
    unfold addTeam
    by_cases blank : teamAlertId team = []
    · simp [blank]
    · simp [blank, mem_addResponder]

/-- Resolving a person raises exactly at a needed search whose body is not JSON. Everything else
that goes wrong is answered with no account. -/
theorem personAccountId_raises {emailCalls : EmailCalls} :
    personAccountId rendering lookup now person emailCalls db = none ↔
      knownAccountId person = [] ∧ SearchNeeded rendering lookup person.email emailCalls ∧
        Garbled emailCalls.search := by
  unfold personAccountId
  by_cases known : knownAccountId person = []
  · simp [known, resolveEmail_raises]
  · simp [known]

/-- Adding people raises exactly where resolving one of them does. The induction is on the people,
with the position of the first of them. -/
theorem addPeople_raises (position : Nat) :
    addPeople rendering lookup now calls position people payload db = none ↔
      ∃ i person, people[i]? = some person ∧ knownAccountId person = [] ∧
        SearchNeeded rendering lookup person.email (calls (position + i)) ∧
        Garbled (calls (position + i)).search := by
  induction people generalizing position payload db with
  | nil => simp [addPeople]
  | cons first rest inductionHypothesis =>
    rw [addPeople]
    cases resolved : personAccountId rendering lookup now first (calls position) db with
    | none =>
      obtain ⟨unknown, needed, garbled⟩ := personAccountId_raises.mp resolved
      exact iff_of_true rfl ⟨0, first, rfl, unknown, needed, garbled⟩
    | some found =>
      have here : ¬ (knownAccountId first = [] ∧
          SearchNeeded rendering lookup first.email (calls position) ∧
            Garbled (calls position).search) := by
        rw [← personAccountId_raises, resolved]
        exact Option.some_ne_none found
      rw [inductionHypothesis]
      constructor
      · rintro ⟨i, person, at_i, unresolved⟩
        rw [Nat.add_assoc, Nat.add_comm 1] at unresolved
        exact ⟨i + 1, person, at_i, unresolved⟩
      · rintro ⟨_ | i, person, at_i, unresolved⟩
        · obtain rfl := Option.some.inj at_i
          exact absurd unresolved here
        · rw [← Nat.add_assoc, Nat.add_right_comm] at unresolved
          exact ⟨i, person, at_i, unresolved⟩

/-- The account of a person does not depend on the cache: what is looked up there is merged only
afterwards. -/
theorem personAccountId_account (person : ThaumPerson) (emailCalls : EmailCalls)
    (db other : IdentityDb) :
    (personAccountId rendering lookup now person emailCalls db).map Prod.fst =
      (personAccountId rendering lookup now person emailCalls other).map Prod.fst := by
  unfold personAccountId
  by_cases known : knownAccountId person = []
  · have same : (resolveEmailToAccountId rendering lookup now person.email emailCalls db).map
          Prod.fst =
        (resolveEmailToAccountId rendering lookup now person.email emailCalls other).map
          Prod.fst := resolveEmail_account db other
    have blankForNone := congrArg (Option.map fun account : Option Text => account.getD []) same
    rw [Option.map_map, Option.map_map] at blankForNone
    simp only [known, ne_eq, not_true_eq_false, if_false, Option.map_map]
    exact blankForNone
  · simp [known]

/-- The person has, or is found to have, the account. -/
def HasAccount (rendering : Rendering) (lookup : Option LookupPlugin) (now : Nat)
    (person : ThaumPerson) (emailCalls : EmailCalls) (accountId : Text) : Prop :=
  accountId ≠ [] ∧
    (personAccountId rendering lookup now person emailCalls .empty).map Prod.fst = some accountId

/-- The entries added for people are the accounts they have. -/
theorem mem_addPeople (position : Nat) {added : List JiraResponder} {after : IdentityDb}
    (adds : addPeople rendering lookup now calls position people payload db =
      some (added, after)) :
    entry ∈ added ↔ entry ∈ payload ∨ ∃ i person accountId, people[i]? = some person ∧
      HasAccount rendering lookup now person (calls (position + i)) accountId ∧
      entry = ⟨.user, accountId⟩ := by
  induction people generalizing position payload db with
  | nil =>
    simp only [addPeople, Option.some.injEq, Prod.mk.injEq] at adds
    simp [adds.1]
  | cons first rest inductionHypothesis =>
    rw [addPeople] at adds
    cases resolved : personAccountId rendering lookup now first (calls position) db with
    | none => simp [resolved] at adds
    | some found =>
      rw [resolved] at adds
      have firstAccount (accountId : Text) :
          HasAccount rendering lookup now first (calls position) accountId ↔
            accountId ≠ [] ∧ found.1 = accountId := by
        rw [HasAccount, personAccountId_account _ _ .empty db, resolved, Option.map_some,
          Option.some.injEq]
      rw [inductionHypothesis _ adds, mem_addPerson]
      constructor
      · rintro ((old | ⟨named, rfl⟩) | ⟨i, person, accountId, at_i, has, rfl⟩)
        · exact Or.inl old
        · exact Or.inr ⟨0, first, found.1, rfl, (firstAccount _).mpr ⟨named, rfl⟩, rfl⟩
        · rw [Nat.add_assoc, Nat.add_comm 1] at has
          exact Or.inr ⟨i + 1, person, accountId, at_i, has, rfl⟩
      · rintro (old | ⟨_ | i, person, accountId, at_i, has, rfl⟩)
        · exact Or.inl (Or.inl old)
        · obtain rfl := Option.some.inj at_i
          obtain ⟨named, rfl⟩ := (firstAccount accountId).mp has
          exact Or.inl (Or.inr ⟨named, rfl⟩)
        · rw [← Nat.add_assoc, Nat.add_right_comm] at has
          exact Or.inr ⟨i, person, accountId, at_i, has, rfl⟩

/-- The payload lists the teams with an id and the people with an account, and nobody else. -/
theorem mem_respondersListToJiraPayload {responders : RespondersList} {after : IdentityDb}
    (listed : respondersListToJiraPayload rendering lookup now responders calls db =
      some (payload, after)) :
    entry ∈ payload ↔
      (∃ team ∈ responders.teams, teamAlertId team ≠ [] ∧ entry = ⟨.team, teamAlertId team⟩) ∨
        ∃ i person accountId, responders.people[i]? = some person ∧
          HasAccount rendering lookup now person (calls i) accountId ∧
          entry = ⟨.user, accountId⟩ := by
  rw [mem_addPeople 0 listed, mem_foldl_addTeam]
  simp only [Nat.zero_add, List.not_mem_nil, false_or]

end Thaum.Jira
