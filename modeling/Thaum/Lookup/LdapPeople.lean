import Thaum.Library.GuardedRuns
import Thaum.Library.LdapFilter
import Thaum.Lookup.LdapAd
import Thaum.Lookup.PlatformIds

/-!
# People from LDAP

A person that is not in the identity cache is searched for by id or by email. The text
asked for is put into a search filter, escaped by the LDAP client, and the configured
filter is appended to it. The first entry found becomes a fragment and is merged into
the cache; a directory that cannot be reached or a search that raises finds nobody.

Whatever text is asked for, the directory is asked for exactly the entries that carry
it, so a run of lookups stores only people of such entries.
-/

namespace Thaum.Lookup.LdapAd

open PyText PyBytes LdapFilter KeyedRows GuardedRuns

/-- The attribute the id of a person is looked for in: one of two usual ones, or one of the
settings. -/
inductive PersonIdMode where
  | samaccountname | uid | attribute
deriving DecidableEq

/-- The settings that decide which people are found. -/
structure PeopleConfig extends Config where
  personIdMode : PersonIdMode
  personIdAttribute : Option Text
  peopleSearchFilter : Text
  groupNameAttribute : Text
  supportedBotPluginNames : Option (List Text)

/-- `_person_id_attr_name`. -/
def personIdAttrName (cfg : PeopleConfig) : Text :=
  match cfg.personIdMode with
  | .samaccountname => "sAMAccountName".toList
  | .uid => "uid".toList
  | .attribute => orElse (cfg.personIdAttribute.getD []) "sAMAccountName".toList

section Filters

variable (escape : Text → Text)

/-- `f"({attr}={escaped})"`. -/
def equalityFilter (attr text : Text) : Text := '(' :: (attr ++ '=' :: (escape text ++ [')']))

/-- The filter and the configured one. -/
def withSearchFilter (cfg : PeopleConfig) (filter : Text) : Text :=
  let extra := strip cfg.peopleSearchFilter
  if extra = [] then filter else '(' :: '&' :: (filter ++ extra ++ [')'])

/-- `_build_person_filter`. -/
def buildPersonFilter (cfg : PeopleConfig) (personId : Text) : Text :=
  withSearchFilter cfg (equalityFilter escape (personIdAttrName cfg) personId)

/-- The attributes that an email is searched in. -/
def emailAttributes (cfg : PeopleConfig) : List Text :=
  cfg.emailAttribute ::
    (cfg.fallbackEmailAttributes.filter fun attr =>
      strip attr != [] && attr != cfg.emailAttribute).map strip

/-- `_build_email_search_filter`. -/
def buildEmailSearchFilter (cfg : PeopleConfig) (emailKey : Text) : Text :=
  withSearchFilter cfg
    ('(' :: '|' ::
      ((emailAttributes cfg).flatMap (fun attr => equalityFilter escape attr emailKey) ++ [')']))

/-- The filter that `fetch_team_members` searches a group by its name with. -/
def groupFilter (cfg : PeopleConfig) (lookupId : Text) : Text :=
  equalityFilter escape cfg.groupNameAttribute lookupId

end Filters

/-- The directory as a call finds it: how each search filter ends, `none` where it cannot
be reached. -/
abbrev Directory := Option (Text → Search)

/-- The first entry of a search; an exception finds none. -/
def searchPerson (directory : Directory) (filter : Text) : Option LdapEntry :=
  match directory with
  | none => none
  | some search =>
    match search filter with
    | .raised => none
    | .done ok entries => if ok then entries.head? else none

/-- What the calls of the plugin depend on beside the cache. -/
structure PeoplePlugin where
  plugin : LookupPlugin
  cfg : PeopleConfig
  rendering : PyJson.Rendering
  loads : JsonLoads
  /-- `ldap3.utils.conv.escape_filter_chars`. -/
  escape : Text → Text

variable (ldap : PeoplePlugin)

/-- `_person_fragment_from_ldap_entry`; an entry whose platform ids raise gives its callers
no person either, as both catch every exception. -/
def personFragment (botPluginName : Text) (entry : LdapEntry) : Option ThaumPerson :=
  let email := firstValue entry (ldap.cfg.emailAttribute :: ldap.cfg.fallbackEmailAttributes)
  let personId := strip (entry.value (personIdAttrName ldap.cfg))
  if personId = [] then none
  else
    (platformIdsExtra ldap.rendering ldap.loads ldap.cfg.toConfig entry).map fun extra =>
      { email := orElse email (personId ++ '@' :: (botPluginName ++ ".unresolved".toList))
        displayName := some (entry.value ldap.cfg.displayNameAttribute)
        platformIds := mergePlatformIds [(botPluginName, personId)] extra
        sourcePlugin := ldap.plugin.pluginName }

/-- Store the fragment of the entry that a search finds. -/
def mergeFound (now : Nat) (botPluginName : Text) (db : IdentityDb)
    (entry : Option LdapEntry) : IdentityDb × Option ThaumPerson :=
  match entry.bind (personFragment ldap botPluginName) with
  | none => (db, none)
  | some fragment =>
    let (db, person) := mergePerson ldap.plugin now fragment db
    (db, some person)

/-- `get_person_by_email`. -/
def getPersonByEmail (now : Nat) (db : IdentityDb) (directory : Directory) (email : Text) :
    IdentityDb × Option ThaumPerson :=
  let key := strip email
  if key = [] then (db, none)
  else
    match getCachedPersonByEmail ldap.plugin db key with
    | some cached => (db, some cached)
    | none =>
      mergeFound ldap now ldap.plugin.pluginName db
        (searchPerson directory (buildEmailSearchFilter ldap.escape ldap.cfg key))

/-- `supported_bot_plugin_names` is set and does not have the name. -/
def unsupported (cfg : PeopleConfig) (botPluginName : Text) : Prop :=
  cfg.supportedBotPluginNames.getD [] ≠ [] ∧
    botPluginName ∉ cfg.supportedBotPluginNames.getD []

instance (cfg : PeopleConfig) (botPluginName : Text) : Decidable (unsupported cfg botPluginName) :=
  inferInstanceAs (Decidable (_ ∧ _))

/-- `get_person_by_id`. -/
def getPersonById (now : Nat) (db : IdentityDb) (directory : Directory)
    (botPluginName personId : Text) : IdentityDb × Option ThaumPerson :=
  match Lookup.getPersonById ldap.plugin db botPluginName personId with
  | some cached => (db, some cached)
  | none =>
    if unsupported ldap.cfg botPluginName then (db, none)
    else
      mergeFound ldap now botPluginName db
        (searchPerson directory (buildPersonFilter ldap.escape ldap.cfg personId))

/-- What a call asks for. -/
inductive Asked where
  | byEmail : (email : Text) → Asked
  | byId : (botPluginName personId : Text) → Asked

/-- A call of the plugin, with the clock and the directory it meets. -/
structure PersonLookup where
  now : Nat
  directory : Directory
  asked : Asked

/-- The tables after a call, and the person it hands out. -/
def lookupPerson (db : IdentityDb) (call : PersonLookup) : IdentityDb × Option ThaumPerson :=
  match call.asked with
  | .byEmail email => getPersonByEmail ldap call.now db call.directory email
  | .byId botPluginName personId =>
    getPersonById ldap call.now db call.directory botPluginName personId

/-- The tables after a call. -/
def lookupStep (db : IdentityDb) (call : PersonLookup) : IdentityDb := (lookupPerson ldap db call).1

/-- The platform key that the entry of a call is stored under. -/
def Asked.platform (asked : Asked) : Text :=
  match asked with
  | .byEmail _ => ldap.plugin.pluginName
  | .byId botPluginName _ => botPluginName

/-- The filter of a call, as it is sent. -/
def Asked.filterText (asked : Asked) : Text :=
  match asked with
  | .byEmail email => buildEmailSearchFilter ldap.escape ldap.cfg (strip email)
  | .byId _ personId => buildPersonFilter ldap.escape ldap.cfg personId

/-- The settings name attributes and append filters. -/
structure Readable (cfg : PeopleConfig) (extras : List SearchFilter) : Prop where
  personId : AttributeName (personIdAttrName cfg)
  email : ∀ attr ∈ emailAttributes cfg, AttributeName attr
  groupName : AttributeName cfg.groupNameAttribute
  extra : Spells (strip cfg.peopleSearchFilter) extras

/-- The filter and some more. -/
def narrowed (extras : List SearchFilter) (filter : SearchFilter) : SearchFilter :=
  if extras.isEmpty then filter else .and (filter :: extras)

/-- The attribute has the text as its value. -/
def equals (text attr : Text) : SearchFilter := .item (.equality attr (encodeUtf8 text))

/-- The entry carries what a call asks for, and meets the configured filters. -/
def Carries (assess : LdapEntry → Assertion → Option Bool) (extras : List SearchFilter)
    (asked : Asked) (entry : LdapEntry) : Prop :=
  (match asked with
    | .byEmail email => ∃ attr ∈ emailAttributes ldap.cfg,
        (equals (strip email) attr).value (assess entry) = some true
    | .byId _ personId =>
        (equals personId (personIdAttrName ldap.cfg)).value (assess entry) = some true) ∧
    ∀ extra ∈ extras, extra.value (assess entry) = some true

/-- A search leaves entries that its filter selects. -/
def Answers (assess : LdapEntry → Assertion → Option Bool) (directory : Directory) : Prop :=
  ∀ search ∈ directory, ∀ text entries, search text = .done true entries →
    ∀ entry ∈ entries, Selects (assess entry) text

variable {escape : Text → Text} {cfg : PeopleConfig} {extras filters : List SearchFilter}
  {filter : SearchFilter} {text : Text}

/-- A filter with the configured one appended spells the conjunction of both. -/
theorem spells_withSearchFilter (readable : Readable cfg extras) (spelled : Spells text [filter]) :
    Spells (withSearchFilter cfg text) [narrowed extras filter] := by
  rw [withSearchFilter, narrowed]
  have extra := readable.extra
  cases extras with
  | nil =>
    cases spelling : strip cfg.peopleSearchFilter with
    | nil => simpa using spelled
    | cons => rw [spelling] at extra; cases extra
  | cons first others =>
    have blank : strip cfg.peopleSearchFilter ≠ [] := by
      intro blank
      rw [blank] at extra
      cases extra
    have combined : combine '&' ([filter] ++ first :: others) =
        some (.and (filter :: first :: others)) := rfl
    simpa [blank] using Spells.group (spelled.append extra) combined Spells.nil

/-- The search text for an id spells the equality with that id and the configured filters. -/
theorem spells_person (escapes : Escapes escape) (readable : Readable cfg extras)
    (personId : Text) : Spells (buildPersonFilter escape cfg personId)
      [narrowed extras (equals personId (personIdAttrName cfg))] :=
  spells_withSearchFilter readable (spells_equality escapes readable.personId personId)

/-- Items for several attributes spell their equalities, one after the other. -/
theorem spells_equalities {attrs : List Text} (escapes : Escapes escape)
    (named : ∀ attr ∈ attrs, AttributeName attr) (text : Text) :
    Spells (attrs.flatMap fun attr => equalityFilter escape attr text)
      (attrs.map (equals text)) := by
  induction attrs with
  | nil => exact Spells.nil
  | cons attr rest inductionHypothesis =>
    obtain ⟨first, others⟩ := List.forall_mem_cons.mp named
    exact (spells_equality escapes first text).append (inductionHypothesis others)

/-- The search text for an email spells the disjunction over the email attributes and the configured
filters. -/
theorem spells_email (escapes : Escapes escape) (readable : Readable cfg extras)
    (emailKey : Text) : Spells (buildEmailSearchFilter escape cfg emailKey)
      [narrowed extras (.or ((emailAttributes cfg).map (equals emailKey)))] := by
  refine spells_withSearchFilter readable ?_
  have combined : combine '|' ((emailAttributes cfg).map (equals emailKey)) =
      some (.or ((emailAttributes cfg).map (equals emailKey))) := rfl
  exact Spells.group (spells_equalities escapes readable.email emailKey) combined Spells.nil

/-- Each search text spells the filter it is meant to be and no other, whatever id, email or group
name is asked for.

Proof: the escaped text reads back as the one value it was made from, so the text built around it
spells the intended filter. A text spells at most one list of filters, so it spells no other. -/
theorem search_filters_exact (escapes : Escapes escape) (readable : Readable cfg extras)
    (wanted : Text) :
    (∀ filters, Spells (buildPersonFilter escape cfg wanted) filters ↔
      filters = [narrowed extras (equals wanted (personIdAttrName cfg))]) ∧
    (∀ filters, Spells (buildEmailSearchFilter escape cfg wanted) filters ↔
      filters = [narrowed extras (.or ((emailAttributes cfg).map (equals wanted)))]) ∧
    ∀ filters, Spells (groupFilter escape cfg wanted) filters ↔
      filters = [equals wanted cfg.groupNameAttribute] := by
  have exactly : ∀ {text filter filters}, Spells text [filter] →
      (Spells text filters ↔ filters = [filter]) := by
    intro text filter filters spelled
    constructor
    · exact fun again => again.filters_unique spelled
    · rintro rfl
      exact spelled
  refine ⟨fun filters => exactly (spells_person escapes readable wanted),
    fun filters => exactly (spells_email escapes readable wanted), fun filters => ?_⟩
  exact exactly (spells_equality escapes readable.groupName wanted)

section Runs

variable {ldap : PeoplePlugin} {assess : LdapEntry → Assertion → Option Bool}
  {db state : IdentityDb} {call : PersonLookup} {calls : List PersonLookup} {entry : LdapEntry}
  {person fragment : ThaumPerson} {directory : Directory}

/-- A narrowed filter holds of an entry where it and every appended filter hold. -/
theorem narrowed_true_iff {held : Assertion → Option Bool} :
    (narrowed extras filter).value held = some true ↔
      filter.value held = some true ∧ ∀ extra ∈ extras, extra.value held = some true := by
  rw [narrowed]
  cases extras with
  | nil => simp
  | cons first others => simp [and_true_iff]

/-- The entry that a search finds is one that its filter selects: the first of the answer is one of
the answer. -/
theorem selects_of_found (answers : Answers assess directory)
    (found : searchPerson directory text = some entry) : Selects (assess entry) text := by
  unfold searchPerson at found
  cases directory with
  | none => simp at found
  | some search =>
    cases ended : search text with
    | raised => simp [ended] at found
    | done ok entries =>
      cases ok with
      | false => simp [ended] at found
      | true =>
        have first : entries.head? = some entry := by simpa [ended] using found
        exact answers search rfl text entries ended entry (List.mem_of_head? first)

/-- The entry that a call finds carries what it asks for. The search text spells the wanted filter
and nothing else, so selecting by the text is carrying the id or the email. -/
theorem carries_of_found {asked : Asked} (escapes : Escapes ldap.escape)
    (readable : Readable ldap.cfg extras) (answers : Answers assess directory)
    (found : searchPerson directory (asked.filterText ldap) = some entry) :
    Carries ldap assess extras asked entry := by
  have selected := selects_of_found answers found
  cases asked with
  | byEmail email =>
    rw [Asked.filterText, selects_iff (spells_email escapes readable _), narrowed_true_iff,
      or_true_iff] at selected
    obtain ⟨⟨part, listed, held⟩, extra⟩ := selected
    obtain ⟨attr, named, rfl⟩ := List.mem_map.mp listed
    exact ⟨⟨attr, named, held⟩, extra⟩
  | byId botPluginName personId =>
    rw [Asked.filterText, selects_iff (spells_person escapes readable _),
      narrowed_true_iff] at selected
    exact selected

/-- What merging the entry of a search does: nothing, where there is no entry or it gives no
fragment, or one merge of its fragment. -/
theorem mergeFound_cases (ldap : PeoplePlugin) (db : IdentityDb) (now : Nat)
    (botPluginName : Text) (found : Option LdapEntry) :
    mergeFound ldap now botPluginName db found = (db, none) ∨
      ∃ entry fragment, found = some entry ∧
        personFragment ldap botPluginName entry = some fragment ∧
        mergeFound ldap now botPluginName db found =
          (mergePersonDb now fragment db, some (mergePerson ldap.plugin now fragment db).2) := by
  rw [mergeFound]
  cases merged : found.bind (personFragment ldap botPluginName) with
  | none => exact Or.inl rfl
  | some fragment =>
    obtain ⟨entry, isFound, made⟩ := Option.bind_eq_some_iff.mp merged
    exact Or.inr ⟨entry, fragment, isFound, made, rfl⟩

/-- A person read by an email is stored. -/
theorem known_of_read {email : Text}
    (read : readPersonByEmail ldap.plugin db email = some person) : Known db person.email := by
  rw [readPersonByEmail_email read]
  exact readPersonByEmail_isSome.mp (Option.isSome_of_mem read)

/-- A person from the cache by email is stored. -/
theorem known_of_cached_email {email : Text}
    (cached : getCachedPersonByEmail ldap.plugin db email = some person) :
    Known db person.email := by
  simp only [getCachedPersonByEmail] at cached
  split at cached
  · simp at cached
  · exact known_of_read cached

/-- A person from the cache by id is stored. -/
theorem known_of_cached_id {botPluginName personId : Text}
    (cached : Lookup.getPersonById ldap.plugin db botPluginName personId = some person) :
    Known db person.email := by
  unfold Lookup.getPersonById at cached
  split at cached
  · simp at cached
  · split at cached
    · simp at cached
    · exact known_of_read cached

/-- A call that leaves the cache alone and hands out somebody stored, if anybody. -/
def Idle (ldap : PeoplePlugin) (db : IdentityDb) (call : PersonLookup) : Prop :=
  (lookupPerson ldap db call).1 = db ∧
    ∀ person ∈ (lookupPerson ldap db call).2, Known db person.email

/-- A call that merges the fragment of the entry its filter finds. -/
def Merges (ldap : PeoplePlugin) (db : IdentityDb) (call : PersonLookup) (entry : LdapEntry)
    (fragment : ThaumPerson) : Prop :=
  searchPerson call.directory (call.asked.filterText ldap) = some entry ∧
    personFragment ldap (call.asked.platform ldap) entry = some fragment ∧
    lookupPerson ldap db call = (mergePersonDb call.now fragment db,
      some (mergePerson ldap.plugin call.now fragment db).2)

/-- A call leaves the cache alone or merges one fragment, by cases on what it asks for. -/
theorem idle_or_merges :
    Idle ldap db call ∨ ∃ entry fragment, Merges ldap db call entry fragment := by
  obtain ⟨now, directory, asked⟩ := call
  cases asked with
  | byEmail email =>
    simp only [Idle, Merges, lookupPerson, getPersonByEmail, Asked.filterText, Asked.platform]
    by_cases blank : strip email = []
    · exact Or.inl (by simp [blank])
    · rw [if_neg blank]
      cases cached : getCachedPersonByEmail ldap.plugin db (strip email) with
      | some person =>
        refine Or.inl ⟨rfl, fun handed isHanded => ?_⟩
        obtain rfl := Option.some.inj isHanded
        exact known_of_cached_email cached
      | none =>
        rcases mergeFound_cases ldap db now ldap.plugin.pluginName
          (searchPerson directory (buildEmailSearchFilter ldap.escape ldap.cfg (strip email)))
        with idle | merged
        · exact Or.inl (by simp [idle])
        · exact Or.inr merged
  | byId botPluginName personId =>
    simp only [Idle, Merges, lookupPerson, getPersonById, Asked.filterText, Asked.platform]
    cases cached : Lookup.getPersonById ldap.plugin db botPluginName personId with
    | some person =>
      refine Or.inl ⟨rfl, fun handed isHanded => ?_⟩
      obtain rfl := Option.some.inj isHanded
      exact known_of_cached_id cached
    | none =>
      dsimp only
      split
      · exact Or.inl (by simp)
      · rcases mergeFound_cases ldap db now botPluginName
          (searchPerson directory (buildPersonFilter ldap.escape ldap.cfg personId))
        with idle | merged
        · exact Or.inl (by simp [idle])
        · exact Or.inr merged

/-- The fragment is that of an entry which carries what the call asks for. -/
def Vouches (ldap : PeoplePlugin) (assess : LdapEntry → Assertion → Option Bool)
    (extras : List SearchFilter) (call : PersonLookup) (fragment : ThaumPerson) : Prop :=
  ∃ entry, Carries ldap assess extras call.asked entry ∧
    personFragment ldap (call.asked.platform ldap) entry = some fragment

/-- The people row that a fragment brings. -/
def personRow (now : Nat) (fragment : ThaumPerson) : SchemaPerson :=
  { email := fragment.email, displayName := fragment.displayName
    sourcePlugin := some fragment.sourcePlugin, nameLastUpdated := now }

/-- What the tables hold beyond what they held before was brought by a call whose entry
carries what it asked for, and no id was lost or given to someone else. -/
structure Sourced (ldap : PeoplePlugin) (assess : LdapEntry → Assertion → Option Bool)
    (extras : List SearchFilter) (calls : List PersonLookup) (db state : IdentityDb) : Prop where
  people : ∀ row ∈ state.people, row ∈ db.people ∨ ∃ call ∈ calls, ∃ fragment,
    Vouches ldap assess extras call fragment ∧ row = personRow call.now fragment
  platformIds : ∀ row ∈ state.platformIds, row ∈ db.platformIds ∨
    ∃ call ∈ calls, ∃ fragment, Vouches ldap assess extras call fragment ∧
      row.email = fragment.email ∧ row.key ∈ fragment.platformIds
  kept : ∀ row ∈ db.platformIds, row ∈ state.platformIds

/-- The row that a merge stores is the fragment's or the one that was there. -/
theorem mergedRow_cases {now : Nat} (stored : Option SchemaPerson)
    (keyed : ∀ row ∈ stored, row.email = fragment.email) :
    mergedRow now fragment stored = personRow now fragment ∨
      stored = some (mergedRow now fragment stored) := by
  cases stored with
  | none => exact Or.inl rfl
  | some existing =>
    simp only [mergedRow]
    split
    · have same : existing.email = fragment.email := keyed existing rfl
      exact Or.inl (by rw [personRow, same])
    · exact Or.inr rfl

/-- A call keeps every row accounted for. An idle call changes nothing, and a merging one adds rows
of the fragment, whose entry carries what the call asked for. -/
theorem sourced_step (escapes : Escapes ldap.escape) (readable : Readable ldap.cfg extras)
    (sourced : Sourced ldap assess extras calls db state) (made : call ∈ calls)
    (answers : Answers assess call.directory) :
    Sourced ldap assess extras calls db (lookupStep ldap state call) := by
  rcases idle_or_merges with idle | ⟨entry, fragment, found, isFragment, merged⟩
  · rw [lookupStep, idle.1]
    exact sourced
  · have vouches : Vouches ldap assess extras call fragment :=
      ⟨entry, carries_of_found escapes readable answers found, isFragment⟩
    rw [lookupStep, merged]
    refine ⟨fun row stored => ?_, fun row stored => ?_, fun row stored => ?_⟩
    · rcases mem_put stored with isMerged | ⟨before, _⟩
      · rcases mergedRow_cases (get SchemaPerson.email fragment.email state.people)
          fun _ read => (get_some read).2 with fresh | old
        · exact Or.inr ⟨call, made, fragment, vouches, isMerged.trans fresh⟩
        · exact sourced.people row (isMerged ▸ (get_some old).1)
      · exact sourced.people row before
    · rcases mem_bindPlatformIds.mp stored with before | ⟨own, listed, _⟩
      · exact sourced.platformIds row before
      · exact Or.inr ⟨call, made, fragment, vouches, own, listed⟩
    · exact mem_bindPlatformIds.mpr (Or.inl (sourced.kept row stored))

/-- A call forgets nobody. -/
theorem known_step {email : Text} (known : Known db email) :
    Known (lookupStep ldap db call) email := by
  rcases idle_or_merges with idle | ⟨entry, fragment, found, isFragment, merged⟩
  · rwa [lookupStep, idle.1]
  · rw [lookupStep, merged]
    exact known_mergePersonDb known

/-- Whoever a call hands out is stored then, from before the call or by its merge. -/
theorem known_handed (handed : person ∈ (lookupPerson ldap db call).2) :
    Known (lookupStep ldap db call) person.email := by
  rcases idle_or_merges with idle | ⟨entry, fragment, found, isFragment, merged⟩
  · rw [lookupStep, idle.1]
    exact idle.2 person handed
  · rw [merged] at handed
    obtain rfl := Option.some.inj handed
    rw [lookupStep, merged, mergePerson_email]
    exact known_mergePersonDb_self

/-- Over any run of lookups, with whatever texts asked for and whatever directories they meet, every
row that is new in the cache is that of an entry which carries what some call asked for, no id is
moved or lost, and whoever is handed out stays stored.

Proof: at the start nothing is new, and each call keeps every row accounted for, so the first part
is the invariant rule. For the second, the call that hands somebody out has them stored, and no call
after it forgets them. -/
theorem lookups_vouched (escapes : Escapes ldap.escape) (readable : Readable ldap.cfg extras)
    (answers : ∀ call ∈ calls, Answers assess call.directory) :
    Sourced ldap assess extras calls db (run (lookupStep ldap) db calls) ∧
      ∀ before call after person, calls = before ++ call :: after →
        person ∈ (lookupPerson ldap (run (lookupStep ldap) db before) call).2 →
        Known (run (lookupStep ldap) db calls) person.email := by
  constructor
  · have kept : ∀ state call, Sourced ldap assess extras calls db state → call ∈ calls →
        Sourced ldap assess extras calls db (lookupStep ldap state call) :=
      fun state call sourced made =>
        sourced_step escapes readable sourced made (answers call made)
    exact invariant_run kept db calls
      ⟨fun row stored => Or.inl stored, fun row stored => Or.inl stored, fun row stored => stored⟩
      (guarded_of_mem db calls fun call made => made)
  · rintro before call after person rfl handed
    have kept : ∀ state call, Known state person.email → True →
        Known (lookupStep ldap state call) person.email :=
      fun state call known _ => known_step known
    rw [run_append, run_cons]
    exact invariant_run kept _ after (known_handed handed)
      (guarded_of_forall (fun _ _ => trivial) _ after)

/-- The entry of one person. -/
def alice : LdapEntry where
  entryDn := "cn=alice,dc=example".toList
  value attr :=
    if attr = "sAMAccountName".toList then "alice".toList
    else if attr = "mail".toList then "alice@example.com".toList
    else if attr = "objectClass".toList then "user".toList
    else []
  values _ := none

/-- Items other than equalities are not assessed. -/
def assessValue (entry : LdapEntry) : Assertion → Option Bool
  | .equality attr value => some (decide (encodeUtf8 (entry.value attr) = value))
  | _ => none

/-- The plugin of the examples, which asks one domain for people by their account name. -/
def oneDomain : PeoplePlugin where
  plugin := { storedOrderPlugin with pluginName := "ldap_ad".toList }
  cfg :=
    { emailAttribute := "mail".toList
      fallbackEmailAttributes := ["userPrincipalName".toList, "mail".toList]
      displayNameAttribute := "displayName".toList
      groupLookupIdMode := .dn
      groupMemberAttribute := "member".toList
      platformIdsLdapAttribute := none
      platformIdsFormat := .json
      personIdMode := .samaccountname
      personIdAttribute := none
      peopleSearchFilter := " (objectClass=user)".toList
      groupNameAttribute := "cn".toList
      supportedBotPluginNames := none }
  rendering := PyJson.asciiRendering
  loads _ := .decodeError
  escape := escapeChars

/-- The filter that the settings of the domain append. -/
def userClass : List SearchFilter := [equals "user".toList "objectClass".toList]

/-- Its settings name attributes, and its appended filter reads as one. -/
theorem oneDomain_readable : Readable oneDomain.cfg userClass where
  personId := ⟨by decide, by decide⟩
  email := by
    have named : AttributeName "mail".toList := ⟨by decide, by decide⟩
    have namedToo : AttributeName "userPrincipalName".toList := ⟨by decide, by decide⟩
    intro attr listed
    have attributes : emailAttributes oneDomain.cfg =
        ["mail".toList, "userPrincipalName".toList] := by decide
    rw [attributes, List.mem_cons, List.mem_singleton] at listed
    rcases listed with rfl | rfl
    · exact named
    · exact namedToo
  groupName := ⟨by decide, by decide⟩
  extra := by
    have item : readItem "objectClass=user".toList =
        some (.equality "objectClass".toList (encodeUtf8 "user".toList)) := by rfl
    exact Spells.item item Spells.nil

/-- A wanted text that closes the item and opens another is still one value, as its brackets and
stars are escaped. -/
theorem pattern_filter_exact :
    {filters | Spells (buildPersonFilter escapeChars oneDomain.cfg "*)(objectClass=*".toList)
      filters} = {[narrowed userClass
        (equals "*)(objectClass=*".toList (personIdAttrName oneDomain.cfg))]} :=
  Set.ext (search_filters_exact escapeChars_escapes oneDomain_readable "*)(objectClass=*".toList).1

/-- The directory finds the person by her id. -/
def domain : Directory :=
  some fun text =>
    .done true
      (if text = buildPersonFilter escapeChars oneDomain.cfg "alice".toList then [alice] else [])

/-- That directory answers a search with entries that the filter selects. -/
theorem domain_answers : Answers assessValue domain := by
  intro search isDomain text entries ended entry listed
  obtain rfl := Option.some.inj isDomain
  obtain ⟨_, found⟩ := Search.done.inj ended
  by_cases same : text = buildPersonFilter escapeChars oneDomain.cfg "alice".toList
  · rw [if_pos same] at found
    obtain rfl := List.mem_singleton.mp (found ▸ listed)
    rw [same, selects_iff (spells_person escapeChars_escapes oneDomain_readable _)]
    decide
  · rw [if_neg same] at found
    simp [← found] at listed

/-- A pattern of ids is asked for before an id. -/
def patternThenId : List PersonLookup :=
  [{ now := 1, directory := domain, asked := .byId "webex".toList "*)(objectClass=*".toList },
    { now := 2, directory := domain, asked := .byId "webex".toList "alice".toList }]

/-- The pattern finds nobody, and the row stored after it is that of the id. -/
theorem pattern_finds_nobody :
    (lookupPerson oneDomain .empty (patternThenId.head (by decide))).2 = none ∧
      (run (lookupStep oneDomain) .empty patternThenId).platformIds =
        [{ platformKey := "webex".toList, platformId := "alice".toList
           email := "alice@example.com".toList }] ∧
      Sourced oneDomain assessValue userClass patternThenId .empty
        (run (lookupStep oneDomain) .empty patternThenId) := by
  have answers : ∀ call ∈ patternThenId, Answers assessValue call.directory := by
    intro call listed
    have met : call.directory = domain := by
      simp only [patternThenId, List.mem_cons, List.not_mem_nil, or_false] at listed
      rcases listed with rfl | rfl
      · rfl
      · rfl
    exact met ▸ domain_answers
  exact ⟨by decide, by decide,
    (lookups_vouched escapeChars_escapes oneDomain_readable answers).1⟩

end Runs

end Thaum.Lookup.LdapAd
