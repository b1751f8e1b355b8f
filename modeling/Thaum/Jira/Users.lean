import Thaum.Library.PyRequests
import Thaum.Lookup.Identity

/-!
# From an email to a Jira account

`resolve_email_to_account_id` asks the lookup plugin first and Jira's user search
second. What the plugin answers is passed in, as it may query a directory of its
own. The search prefers an entry that shows the email and otherwise takes the
first entry with an account; the account is merged into the identity cache.

Emails are compared in the lower case of the whole of Unicode.
-/

namespace Thaum.Jira

open PyText PyJson PyRequests Lookup

/-- `str(u.get(name) or "").strip()`. -/
def trimmedField (rendering : Rendering) (name : Text) (fields : List (Text × Json)) : Text :=
  strip (strOrBlank rendering (get name fields))

/-- The account id an entry of the search shows, trimmed. -/
def accountIdOf (rendering : Rendering) (fields : List (Text × Json)) : Text :=
  trimmedField rendering "accountId".toList fields

/-- The entry with an account that shows the email, or else the first with an account. -/
def chooseUser (rendering : Rendering) (emailKey : Text) (users : List Json) :
    Option (List (Text × Json)) :=
  let entries := users.filterMap Json.fields?
  let withAccount := entries.filter fun fields => accountIdOf rendering fields != []
  match withAccount.find? fun fields =>
      rendering.lower (trimmedField rendering "emailAddress".toList fields) == emailKey with
  | some fields => some fields
  | none => withAccount.head?

/-- The fragment merged for a chosen entry. -/
def searchFragment (rendering : Rendering) (emailKey : Text) (fields : List (Text × Json)) :
    ThaumPerson :=
  let displayName := trimmedField rendering "displayName".toList fields
  { email := emailKey
    displayName := if displayName = [] then none else some displayName
    platformIds := [("jira".toList, accountIdOf rendering fields)]
    sourcePlugin := "jira".toList }

/-- `_jira_user_search_fallback`, given how the search ends; `none` where `json()`
raises. A failing `merge_person` is logged. -/
def jiraUserSearchFallback (rendering : Rendering) (lookup : Option LookupPlugin) (now : Nat)
    (mergeCommits : Bool) (emailKey : Text) (response : Response) (db : IdentityDb) :
    Option (Option Text × IdentityDb) :=
  if !response.ok then some (none, db)
  else match response.json? with
    | none => none
    | some (.arr users) =>
      match chooseUser rendering emailKey users with
      | none => some (none, db)
      | some fields =>
        let merged := mergePersonDb now (searchFragment rendering emailKey fields) db
        some (some (accountIdOf rendering fields),
          if lookup.isSome && mergeCommits then merged else db)
    | some _ => some (none, db)

/-- How `lookup.get_person_by_email` ends. -/
inductive LookupAnswer where
  | raised : LookupAnswer
  | answered : Option ThaumPerson → LookupAnswer

/-- The Jira id of the plugin's answer, blank where it raises or has none. -/
def LookupAnswer.jiraId : LookupAnswer → Text
  | .answered (some person) => (person.platformIds.lookup "jira".toList).getD []
  | _ => []

/-- How the calls made for one email end, each if it is made. -/
structure EmailCalls where
  lookup : LookupAnswer
  search : Response
  mergeCommits : Bool

/-- The Jira id the lookup plugin has for an email, blank where there is no plugin. -/
def lookupJiraId (lookup : Option LookupPlugin) (calls : EmailCalls) : Text :=
  if lookup.isSome then calls.lookup.jiraId else []

/-- `resolve_email_to_account_id` from its key on. -/
def resolveEmailKey (rendering : Rendering) (lookup : Option LookupPlugin) (now : Nat)
    (key : Text) (calls : EmailCalls) (db : IdentityDb) : Option (Option Text × IdentityDb) :=
  if key = [] then some (none, db)
  else if lookupJiraId lookup calls ≠ [] then some (some (lookupJiraId lookup calls), db)
  else jiraUserSearchFallback rendering lookup now calls.mergeCommits key calls.search db

/-- `resolve_email_to_account_id`; `none` where it raises. -/
def resolveEmailToAccountId (rendering : Rendering) (lookup : Option LookupPlugin) (now : Nat)
    (email : Text) (calls : EmailCalls) (db : IdentityDb) : Option (Option Text × IdentityDb) :=
  resolveEmailKey rendering lookup now (rendering.key email) calls db

/-- The email has to be searched for in Jira. -/
def SearchNeeded (rendering : Rendering) (lookup : Option LookupPlugin) (email : Text)
    (calls : EmailCalls) : Prop :=
  rendering.key email ≠ [] ∧ lookupJiraId lookup calls = []

/-- The search succeeds with a body that is not JSON. -/
def Garbled (response : Response) : Prop := response.ok = true ∧ response.json? = none

variable {rendering : Rendering} {lookup : Option LookupPlugin} {now : Nat} {email : Text}
  {calls : EmailCalls} {db : IdentityDb}

/-- The search raises exactly where it succeeds with a body that is not JSON. A search that fails is
logged and finds nobody. -/
theorem searchFallback_raises {mergeCommits : Bool} {emailKey : Text} {response : Response} :
    jiraUserSearchFallback rendering lookup now mergeCommits emailKey response db = none ↔
      Garbled response := by
  unfold jiraUserSearchFallback Garbled
  cases response.ok with
  | false => simp
  | true =>
    cases body : response.json? with
    | none => simp
    | some users =>
      cases users with
      | arr users => cases chosen : chooseUser rendering emailKey users <;> simp [chosen]
      | _ => simp

/-- The only exception that escapes is a needed search whose body is not JSON. A lookup plugin that
raises is caught, and the search is then needed. -/
theorem resolveEmail_raises :
    resolveEmailToAccountId rendering lookup now email calls db = none ↔
      SearchNeeded rendering lookup email calls ∧ Garbled calls.search := by
  unfold resolveEmailToAccountId resolveEmailKey SearchNeeded
  by_cases blank : rendering.key email = []
  · simp [blank]
  · by_cases cached : lookupJiraId lookup calls = []
    · simpa [blank, cached] using searchFallback_raises
    · simp [blank, cached]

/-- Which account is found does not depend on the cache it is merged into, so the people of one
alert can be resolved one after the other although each merge changes the cache. -/
theorem resolveEmail_account (db other : IdentityDb) :
    (resolveEmailToAccountId rendering lookup now email calls db).map Prod.fst =
      (resolveEmailToAccountId rendering lookup now email calls other).map Prod.fst := by
  unfold resolveEmailToAccountId resolveEmailKey
  by_cases blank : rendering.key email = []
  · simp [blank]
  by_cases cached : lookupJiraId lookup calls = []
  · simp only [blank, cached, if_false, ne_eq, not_true_eq_false, jiraUserSearchFallback]
    cases calls.search.ok with
    | false => rfl
    | true =>
      cases body : calls.search.json? with
      | none => rfl
      | some users =>
        cases users with
        | arr users =>
          cases chosen : chooseUser rendering (rendering.key email) users <;> simp [chosen]
        | _ => rfl
  · simp [blank, cached]

end Thaum.Jira
