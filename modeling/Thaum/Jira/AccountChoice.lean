import Thaum.Lookup.EmailSpelling

/-!
# The account that a user search finds

Jira's user search is fuzzy: it answers a query with users whose address is another one, or
hidden. Both resolvers take the entry that shows the address that was searched for, and
otherwise the first entry with an account, whatever address it shows.

Addresses are compared in the lower case of the whole of Unicode.
-/

namespace Thaum.Jira

open PyText PyJson PyRequests KeyedRows Lookup

variable (casing : CaseMapping) (rendering : Rendering) (emailKey : Text)

/-- `str(u.get("emailAddress") or "").strip().lower()`. -/
def visibleEmail (fields : List (Text × Json)) : Text :=
  casing.key (strOrBlank rendering (get "emailAddress".toList fields))

/-- The entries with an account of a list of users. -/
def withAccount (users : List Json) : List (List (Text × Json)) :=
  (users.filterMap Json.fields?).filter fun fields => accountIdOf rendering fields != []

/-- The two loops over the users. -/
def chooseEntry (users : List Json) : Option (List (Text × Json)) :=
  match (withAccount rendering users).find? fun fields =>
      visibleEmail casing rendering fields == emailKey with
  | some fields => some fields
  | none => (withAccount rendering users).head?

/-- The search up to the entry that is merged; `none` where `json()` raises. -/
def searchEntry (response : Response) : Option (Option (List (Text × Json))) :=
  if !response.ok then some none
  else match response.json? with
    | none => none
    | some (.arr users) => some (chooseEntry casing rendering emailKey users)
    | some _ => some none

/-- `_jira_user_search_fallback`: the account and the identity cache after it. A failing
`merge_person` is logged. -/
def userSearchFallback (lookup : Option LookupPlugin) (now : Nat) (mergeCommits : Bool)
    (response : Response) (db : IdentityDb) : Option (Option Text × IdentityDb) :=
  (searchEntry casing rendering emailKey response).map fun chosen =>
    match chosen with
    | none => (none, db)
    | some fields =>
      (some (accountIdOf rendering fields),
        if lookup.isSome && mergeCommits then
          mergePersonDb now (searchFragment rendering emailKey fields) db
        else db)

/-- `_resolve_person_by_email_via_jira`; `none` where it raises, also in
`merge_person`. -/
def resolvePersonByEmailViaJira (plugin : LookupPlugin) (now : Nat) (mergeCommits : Bool)
    (response : Response) (db : IdentityDb) : Option (Option ThaumPerson × IdentityDb) :=
  match searchEntry casing rendering emailKey response with
  | none => none
  | some none => some (none, db)
  | some (some fields) =>
    let fragment :=
      { searchFragment rendering emailKey fields with sourcePlugin := plugin.pluginName }
    if mergeCommits then
      some (some (mergePerson plugin now fragment db).2, mergePersonDb now fragment db)
    else none

/-- With the lower case that the alert plugin compares addresses in, the search is that of the alert
plugin. So what is proved of the choice here is about the account that an alert is posted with. -/
theorem userSearchFallback_eq (lookup : Option LookupPlugin) (now : Nat) (mergeCommits : Bool)
    (response : Response) (db : IdentityDb) :
    userSearchFallback rendering.toCaseMapping rendering emailKey lookup now mergeCommits response
        db =
      jiraUserSearchFallback rendering lookup now mergeCommits emailKey response db := by
  unfold userSearchFallback jiraUserSearchFallback searchEntry
  cases response.ok with
  | false => rfl
  | true =>
    cases body : response.json? with
    | none => rfl
    | some answer =>
      cases answer with
      | arr users =>
        have same : chooseEntry rendering.toCaseMapping rendering emailKey users =
            chooseUser rendering emailKey users := rfl
        dsimp only
        rw [same]
        cases chooseUser rendering emailKey users <;> rfl
      | _ => rfl

/-- The account is that of the entry that was chosen, which shows the address that was
searched for or none. -/
def RightlyTaken (response : Response) (accountId : Text) : Prop :=
  ∃ fields, searchEntry casing rendering emailKey response = some (some fields) ∧
    accountIdOf rendering fields = accountId ∧
      (visibleEmail casing rendering fields = emailKey ∨ visibleEmail casing rendering fields = [])

/-- The rows that are new bind accounts that were taken rightly to the email. -/
def BindsRightly (response : Response) (before after : IdentityDb) : Prop :=
  ∀ row ∈ after.platformIds, row ∈ before.platformIds ∨
    row.email = emailKey ∧ row.platformKey = "jira".toList ∧
      RightlyTaken casing rendering emailKey response row.platformId

/-- Neither resolver takes or binds the account of another address. A person shows the
account that was taken or one that was bound to the email before. -/
structure NeverWrongAccount (lookup : Option LookupPlugin) (plugin : LookupPlugin) (now : Nat)
    (response : Response) (db : IdentityDb) : Prop where
  account : ∀ mergeCommits accountId after,
    userSearchFallback casing rendering emailKey lookup now mergeCommits response db =
        some (some accountId, after) →
      RightlyTaken casing rendering emailKey response accountId
  accountBound : ∀ mergeCommits found after,
    userSearchFallback casing rendering emailKey lookup now mergeCommits response db =
        some (found, after) → BindsRightly casing rendering emailKey response db after
  person : ∀ mergeCommits person after,
    resolvePersonByEmailViaJira casing rendering emailKey plugin now mergeCommits response db =
        some (some person, after) →
      ∃ accountId, RightlyTaken casing rendering emailKey response accountId ∧
        ∀ shown, idOn person "jira".toList = some shown →
          shown = accountId ∨ ⟨"jira".toList, shown, emailKey⟩ ∈ db.platformIds
  personBound : ∀ mergeCommits found after,
    resolvePersonByEmailViaJira casing rendering emailKey plugin now mergeCommits response db =
        some (found, after) → BindsRightly casing rendering emailKey response db after

/-- Some user with an account shows the address, or the first user with an account shows
none. -/
def FirstHidden (users : List Json) : Prop :=
  (∃ fields ∈ withAccount rendering users, visibleEmail casing rendering fields = emailKey) ∨
    ∀ first ∈ (withAccount rendering users).head?, visibleEmail casing rendering first = []

variable {casing rendering emailKey} {users : List Json} {fields : List (Text × Json)}
  {response : Response} {lookup : Option LookupPlugin} {plugin : LookupPlugin} {now : Nat}
  {db : IdentityDb} {accountId : Text} {row : SchemaPlatformId}

/-- An entry that was chosen shows the address, or no entry does and it is the first. The first loop
looks for the address, the second takes what comes. -/
theorem chooseEntry_some (chosen : chooseEntry casing rendering emailKey users = some fields) :
    visibleEmail casing rendering fields = emailKey ∨
      (∀ other ∈ withAccount rendering users, visibleEmail casing rendering other ≠ emailKey) ∧
        (withAccount rendering users).head? = some fields := by
  unfold chooseEntry at chosen
  split at chosen
  · rename_i found isFound
    obtain rfl := Option.some.inj chosen
    left
    simpa using List.find?_some isFound
  · rename_i unfound
    refine Or.inr ⟨?_, chosen⟩
    simpa using unfound

/-- The chosen entry shows the address or none exactly where the first one is hidden or another
shows the address. A search without entries chooses none. -/
theorem chooseEntry_shows_iff :
    (∀ fields, chooseEntry casing rendering emailKey users = some fields →
      visibleEmail casing rendering fields = emailKey ∨
        visibleEmail casing rendering fields = []) ↔
      FirstHidden casing rendering emailKey users := by
  constructor
  · intro always
    by_cases shown : ∃ fields ∈ withAccount rendering users,
        visibleEmail casing rendering fields = emailKey
    · exact Or.inl shown
    · right
      intro first isFirst
      have unfound : (withAccount rendering users).find? (fun fields =>
          visibleEmail casing rendering fields == emailKey) = none := by
        rw [List.find?_eq_none]
        intro fields listed same
        exact shown ⟨fields, listed, beq_iff_eq.mp same⟩
      have chosen : chooseEntry casing rendering emailKey users = some first := by
        rw [chooseEntry, unfound]
        exact isFirst
      rcases always first chosen with same | hidden
      · exact absurd ⟨first, List.mem_of_mem_head? isFirst, same⟩ shown
      · exact hidden
  · rintro (⟨other, listed, same⟩ | hidden) fields chosen
    · rcases chooseEntry_some chosen with shows | ⟨none', _⟩
      · exact Or.inl shows
      · exact absurd same (none' other listed)
    · rcases chooseEntry_some chosen with shows | ⟨_, isFirst⟩
      · exact Or.inl shows
      · exact Or.inr (hidden fields isFirst)

/-- A search that is answered with a list chooses from it. -/
theorem searchEntry_list (answered : response.json? = some (.arr users)) :
    searchEntry casing rendering emailKey response =
      some (chooseEntry casing rendering emailKey users) := by
  have ok : response.ok = true := by
    cases response with
    | raised => cases answered
    | answered status body =>
      rw [Response.json?] at answered
      split at answered
      · cases answered
      · rename_i accepted
        simp only [Response.ok, Bool.not_eq_true', decide_eq_false_iff_not]
        exact accepted
  rw [searchEntry, ok, answered]
  rfl

/-- An entry is chosen from a list of users only; every other body is no answer. -/
theorem searchEntry_some
    (chosen : searchEntry casing rendering emailKey response = some (some fields)) :
    ∃ users, response.json? = some (.arr users) ∧
      chooseEntry casing rendering emailKey users = some fields := by
  unfold searchEntry at chosen
  split at chosen
  · cases Option.some.inj chosen
  · split at chosen
    · cases chosen
    · rename_i users isList
      exact ⟨users, isList, Option.some.inj chosen⟩
    · cases Option.some.inj chosen

section Outcomes

variable {mergeCommits : Bool} {after : IdentityDb}

/-- The fallback returns the account of the chosen entry, whatever becomes of merging it. -/
theorem userSearchFallback_some : (∃ after, userSearchFallback casing rendering emailKey lookup now
      mergeCommits response db = some (some accountId, after)) ↔
    ∃ fields, searchEntry casing rendering emailKey response = some (some fields) ∧
      accountIdOf rendering fields = accountId := by
  unfold userSearchFallback
  cases searchEntry casing rendering emailKey response with
  | none => simp
  | some chosen => cases chosen <;> simp

/-- A person is returned for a chosen entry only, as merging left it. -/
theorem resolvePersonByEmailViaJira_some {person : ThaumPerson}
    (resolved : resolvePersonByEmailViaJira casing rendering emailKey plugin now mergeCommits
      response db = some (some person, after)) :
    ∃ fields, searchEntry casing rendering emailKey response = some (some fields) ∧
      person = (mergePerson plugin now { searchFragment rendering emailKey fields with
        sourcePlugin := plugin.pluginName } db).2 ∧
      after = mergePersonDb now { searchFragment rendering emailKey fields with
        sourcePlugin := plugin.pluginName } db := by
  unfold resolvePersonByEmailViaJira at resolved
  cases isChosen : searchEntry casing rendering emailKey response with
  | none => simp [isChosen] at resolved
  | some chosen =>
    cases chosen with
    | none => simp [isChosen] at resolved
    | some fields =>
      simp only [isChosen] at resolved
      split at resolved
      · obtain ⟨isPerson, isAfter⟩ := Prod.mk.inj (Option.some.inj resolved)
        exact ⟨fields, rfl, (Option.some.inj isPerson).symm, isAfter.symm⟩
      · cases resolved

/-- Merging an entry adds the row of its account at most, bound to the email that was searched
for. -/
theorem merged_row {fragment : ThaumPerson} (isKey : fragment.email = emailKey)
    (isId : fragment.platformIds = [("jira".toList, accountId)])
    (stored : row ∈ (mergePersonDb now fragment db).platformIds) :
    row ∈ db.platformIds ∨
      row.email = emailKey ∧ row.platformKey = "jira".toList ∧ row.platformId = accountId := by
  rw [mergePersonDb, isId, isKey] at stored
  rcases mem_bindPlatformIds.mp stored with before | ⟨email, listed, _⟩
  · exact Or.inl before
  · obtain ⟨platformKey, platformId⟩ := Prod.mk.inj (List.mem_singleton.mp listed)
    exact Or.inr ⟨email, platformKey, platformId⟩

/-- The Jira id that a merged person shows is the merged one or was bound before, since an id that
is bound is not moved. -/
theorem mergePerson_jiraId {fragment : ThaumPerson} {shown : Text}
    (isKey : fragment.email = emailKey)
    (isId : fragment.platformIds = [("jira".toList, accountId)])
    (shows : idOn (mergePerson plugin now fragment db).2 "jira".toList = some shown) :
    shown = accountId ∨ ⟨"jira".toList, shown, emailKey⟩ ∈ db.platformIds := by
  have known : (readPersonByEmail plugin (mergePersonDb now fragment db)
      fragment.email).isSome = true :=
    readPersonByEmail_isSome.mpr known_mergePersonDb_self
  obtain ⟨person, read⟩ := Option.isSome_iff_exists.mp known
  have merged : (mergePerson plugin now fragment db).2 = person := by
    rw [mergePerson, read, Option.getD_some]
  rw [merged] at shows
  obtain ⟨row, stored, isEmail, keyed⟩ := idOn_stored read shows
  obtain ⟨isJira, isShown⟩ := Prod.mk.inj keyed
  rcases merged_row isKey isId stored with before | ⟨_, _, same⟩
  · right
    rwa [← isJira, ← isShown, ← isKey, ← isEmail]
  · exact Or.inl (isShown.symm.trans same)

/-- Merging an entry that was rightly taken binds rightly. -/
theorem bindsRightly_merge {fragment : ThaumPerson} (isKey : fragment.email = emailKey)
    (isId : fragment.platformIds = [("jira".toList, accountId)])
    (taken : RightlyTaken casing rendering emailKey response accountId) :
    BindsRightly casing rendering emailKey response db (mergePersonDb now fragment db) := by
  intro row stored
  rcases merged_row isKey isId stored with before | ⟨isEmail, isJira, same⟩
  · exact Or.inl before
  · exact Or.inr ⟨isEmail, isJira, same ▸ taken⟩

/-- Where nothing is merged nothing is bound. -/
theorem bindsRightly_same : BindsRightly casing rendering emailKey response db db :=
  fun _ stored => Or.inl stored

/-- The fallback binds rightly if what it chooses is rightly taken, whether or not the merge
commits. -/
theorem userSearchFallback_binds {found : Option Text}
    (taken : ∀ fields, searchEntry casing rendering emailKey response = some (some fields) →
      RightlyTaken casing rendering emailKey response (accountIdOf rendering fields))
    (returned : userSearchFallback casing rendering emailKey lookup now mergeCommits response db =
      some (found, after)) :
    BindsRightly casing rendering emailKey response db after := by
  unfold userSearchFallback at returned
  cases isChosen : searchEntry casing rendering emailKey response with
  | none => simp [isChosen] at returned
  | some chosen =>
    simp only [isChosen, Option.map_some, Option.some.injEq] at returned
    cases chosen with
    | none =>
      obtain ⟨-, rfl⟩ := Prod.mk.inj returned
      exact bindsRightly_same
    | some fields =>
      obtain ⟨-, rfl⟩ := Prod.mk.inj returned
      split
      · exact bindsRightly_merge rfl rfl (taken fields isChosen)
      · exact bindsRightly_same

/-- So does the resolver of the plugin, which merges the same entry. -/
theorem resolvePersonByEmailViaJira_binds {found : Option ThaumPerson}
    (taken : ∀ fields, searchEntry casing rendering emailKey response = some (some fields) →
      RightlyTaken casing rendering emailKey response (accountIdOf rendering fields))
    (resolved : resolvePersonByEmailViaJira casing rendering emailKey plugin now mergeCommits
      response db = some (found, after)) :
    BindsRightly casing rendering emailKey response db after := by
  cases found with
  | some person =>
    obtain ⟨fields, chosen, -, rfl⟩ := resolvePersonByEmailViaJira_some resolved
    exact bindsRightly_merge rfl rfl (taken fields chosen)
  | none =>
    unfold resolvePersonByEmailViaJira at resolved
    split at resolved
    · cases resolved
    · obtain ⟨-, rfl⟩ := Prod.mk.inj (Option.some.inj resolved)
      exact bindsRightly_same
    · split at resolved
      · cases (Prod.mk.inj (Option.some.inj resolved)).1
      · cases resolved

end Outcomes

/-- For every lookup, cache and outcome of merging, neither resolver takes or binds the account of
another address exactly where, in a list of users, one shows the address that is searched for or the
first one with an account shows none.

Proof: both take the chosen entry, and it shows the address or none exactly under that condition.
The other way the fallback, with a merge that fails, returns the account of whatever is chosen. -/
theorem never_wrong_account_iff (casing : CaseMapping) (rendering : Rendering) (emailKey : Text)
    (lookup : Option LookupPlugin) (plugin : LookupPlugin) (now : Nat) (response : Response)
    (db : IdentityDb) :
    NeverWrongAccount casing rendering emailKey lookup plugin now response db ↔
      ∀ users, response.json? = some (.arr users) →
        FirstHidden casing rendering emailKey users := by
  constructor
  · intro never users answered
    apply chooseEntry_shows_iff.mp
    intro fields chosen
    have isEntry : searchEntry casing rendering emailKey response = some (some fields) := by
      rw [searchEntry_list answered, chosen]
    obtain ⟨after, returned⟩ : ∃ after, userSearchFallback casing rendering emailKey lookup now
        false response db = some (some (accountIdOf rendering fields), after) :=
      userSearchFallback_some.mpr ⟨fields, isEntry, rfl⟩
    obtain ⟨other, isOther, _, shows⟩ := never.account _ _ _ returned
    rw [isEntry] at isOther
    obtain rfl := Option.some.inj (Option.some.inj isOther)
    exact shows
  · intro hidden
    have taken (fields : List (Text × Json))
        (chosen : searchEntry casing rendering emailKey response = some (some fields)) :
        RightlyTaken casing rendering emailKey response (accountIdOf rendering fields) := by
      obtain ⟨users, answered, isEntry⟩ := searchEntry_some chosen
      exact ⟨fields, chosen, rfl, chooseEntry_shows_iff.mpr (hidden users answered) fields isEntry⟩
    constructor
    case account =>
      intro mergeCommits accountId after returned
      obtain ⟨fields, chosen, rfl⟩ := userSearchFallback_some.mp ⟨after, returned⟩
      exact taken fields chosen
    case accountBound =>
      exact fun mergeCommits found after returned => userSearchFallback_binds taken returned
    case person =>
      intro mergeCommits person after resolved
      obtain ⟨fields, chosen, rfl, -⟩ := resolvePersonByEmailViaJira_some resolved
      exact ⟨_, taken fields chosen, fun shown shows => mergePerson_jiraId rfl rfl shows⟩
    case personBound =>
      exact fun mergeCommits found after resolved =>
        resolvePersonByEmailViaJira_binds taken resolved

section Example

/-- The search answers with a user whose visible address is another one. -/
def otherUser : Response :=
  .answered 200 (some (.arr [.obj [("accountId".toList, .str "acct-9".toList),
    ("emailAddress".toList, .str "alice.smith@example.com".toList)]]))

/-- For `alice@example.com` the account of `alice.smith@example.com` is taken, as it is the only one
that the search answers. -/
theorem other_address_taken : ¬ ∀ casing rendering emailKey lookup plugin now response db,
    NeverWrongAccount casing rendering emailKey lookup plugin now response db := by
  intro always
  have never := always asciiCasing asciiRendering "alice@example.com".toList none storedOrderPlugin
    0 otherUser .empty
  obtain ⟨fields, chosen, isAccount, shows⟩ := never.account false "acct-9".toList .empty
    (by decide +kernel)
  have entry : searchEntry asciiCasing asciiRendering "alice@example.com".toList otherUser =
      some (some [("accountId".toList, .str "acct-9".toList),
        ("emailAddress".toList, .str "alice.smith@example.com".toList)]) := by
    rfl
  rw [entry] at chosen
  obtain rfl := Option.some.inj (Option.some.inj chosen)
  revert shows
  decide +kernel

end Example

end Thaum.Jira
