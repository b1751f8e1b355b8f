import Thaum.Library.PyJson
import Thaum.Lookup.Teams

/-!
# Team members from LDAP

`fetch_team_members` of the LDAP plugin finds the group, reads the DNs of its
members and searches each of them for an email. The directory is whether the
connection can be opened and the results of the searches in the order they are
made; once they are used up a further search raises. Every exception ends the
fetch with an empty list.
-/

namespace Thaum.Lookup.LdapAd

open PyText PyJson KeyedRows

/-- An entry of the directory: the text of an attribute's value, blank when there is
none, and its values, `none` when it has no such attribute. -/
structure LdapEntry where
  entryDn : Text
  value : Text → Text
  values : Text → Option (List Text)

/-- How `conn.search` ends, with the entries it leaves. -/
inductive Search where
  | raised : Search
  | done : (ok : Bool) → (entries : List LdapEntry) → Search

inductive GroupLookupIdMode where
  | dn | name
deriving DecidableEq

/-- How the platform ids attribute is written. -/
inductive PlatformIdsFormat where
  | json : PlatformIdsFormat
  | delimited : Char → PlatformIdsFormat
deriving DecidableEq

/-- The settings that decide which members are found. Filters, bases and the
attributes asked for are part of what the directory answers. -/
structure Config where
  emailAttribute : Text
  fallbackEmailAttributes : List Text
  displayNameAttribute : Text
  groupLookupIdMode : GroupLookupIdMode
  groupMemberAttribute : Text
  platformIdsLdapAttribute : Option Text
  platformIdsFormat : PlatformIdsFormat

/-- How `json.loads` ends: with a value, with the `JSONDecodeError` that the plugin
catches, or with another error, as for a number of too many digits. -/
inductive Loaded where
  | value : Json → Loaded
  | decodeError : Loaded
  | raised : Loaded

/-- `json.loads`. -/
abbrev JsonLoads := Text → Loaded

/-- `merge_platform_ids_from_ldap`. -/
def mergePlatformIds (base extra : List (Text × Text)) : List (Text × Text) :=
  extra.foldl (fun out id => put Prod.fst id out) base

/-- `iter_ldap_attribute_string_values`. -/
def attributeStringValues (entry : LdapEntry) (attrName : Text) : List Text :=
  ((entry.values attrName).getD []).filter fun value => strip value != []

/-- The ids of a JSON object of platform keys. -/
def platformIdsOfJson (rendering : Rendering) (fields : List (Text × Json)) : List (Text × Text) :=
  fields.foldl
    (fun out field =>
      let key := strip field.1
      let id := match field.2 with
        | .null => []
        | value => strip (pyStr rendering value)
      if key = [] ∨ id = [] then out else put Prod.fst (key, id) out)
    []

/-- The ids of `key<delimiter>id` values. -/
def platformIdsOfLines (delimiter : Char) (lines : List Text) : List (Text × Text) :=
  lines.foldl
    (fun out line =>
      let line := strip line
      if delimiter ∉ line then out
      else
        let key := strip (line.takeWhile fun c => c != delimiter)
        let id := strip ((line.dropWhile fun c => c != delimiter).drop 1)
        if key = [] ∨ id = [] then out else put Prod.fst (key, id) out)
    []

/-- `parse_platform_ids_from_ldap_entry`; `none` where it raises. A value that is no JSON,
or no JSON object, is logged and has no ids. -/
def parsePlatformIds (rendering : Rendering) (loads : JsonLoads) (format : PlatformIdsFormat)
    (attrName : Text) (entry : LdapEntry) : Option (List (Text × Text)) :=
  if strip attrName = [] then some []
  else
    let values := attributeStringValues entry attrName
    match format with
    | .json =>
      match values with
      | [] => some []
      | raw :: _ =>
        match loads raw with
        | .raised => none
        | .decodeError => some []
        | .value data => some ((data.fields?.map (platformIdsOfJson rendering)).getD [])
    | .delimited delimiter => some (platformIdsOfLines delimiter values)

/-- `_platform_ids_extra_from_entry`; `none` where it raises. -/
def platformIdsExtra (rendering : Rendering) (loads : JsonLoads) (cfg : Config)
    (entry : LdapEntry) : Option (List (Text × Text)) :=
  let attrName := strip (cfg.platformIdsLdapAttribute.getD [])
  if attrName = [] then some []
  else parsePlatformIds rendering loads cfg.platformIdsFormat attrName entry

/-- The first attribute in order with a value. -/
def firstValue (entry : LdapEntry) (attributes : List Text) : Text :=
  ((attributes.map entry.value).find? fun value => value != []).getD []

/-- The fragments of a member entry: one, or none for a member without an email, which is
skipped. `none` where the reading of its platform ids raises. -/
def memberFragment (rendering : Rendering) (loads : JsonLoads) (cfg : Config)
    (plugin : LookupPlugin) (memberDn : Text) (entry : LdapEntry) : Option (List ThaumPerson) :=
  let email := firstValue entry (cfg.emailAttribute :: cfg.fallbackEmailAttributes)
  if email = [] then some []
  else
    (platformIdsExtra rendering loads cfg entry).map fun extra =>
      [{ email
         displayName := some (entry.value cfg.displayNameAttribute)
         platformIds := mergePlatformIds [(plugin.pluginName, memberDn)] extra
         sourcePlugin := plugin.pluginName }]

/-- The first entry a search leaves, and the searches after it; `none` where it
raises. -/
def nextEntry : List Search → Option (Option LdapEntry × List Search)
  | [] => none
  | .raised :: _ => none
  | .done ok entries :: rest => some (if ok then entries.head? else none, rest)

/-- The loop over the member DNs; `none` where a search or an entry raises. -/
def fetchMembers (rendering : Rendering) (loads : JsonLoads) (cfg : Config)
    (plugin : LookupPlugin) : List Text → List Search → Option (List ThaumPerson)
  | [], _ => some []
  | memberDn :: rest, searches =>
    match nextEntry searches with
    | none => none
    | some (none, searches) => fetchMembers rendering loads cfg plugin rest searches
    | some (some entry, searches) => do
      let fragments ← memberFragment rendering loads cfg plugin memberDn entry
      let people ← fetchMembers rendering loads cfg plugin rest searches
      return fragments ++ people

/-- The member DNs of a group, then its members; `none` where a search or an entry
raises. -/
def fetchGroup (rendering : Rendering) (loads : JsonLoads) (cfg : Config)
    (plugin : LookupPlugin) (searches : List Search) : Option (List ThaumPerson) :=
  match nextEntry searches with
  | none => none
  | some (none, _) => some []
  | some (some group, searches) =>
    let memberDns := ((group.values cfg.groupMemberAttribute).getD []).filter fun dn => dn != []
    fetchMembers rendering loads cfg plugin memberDns searches

/-- The searches of `fetch_team_members` over an open connection; `none` where one of them
or an entry raises. -/
def searchTeam (rendering : Rendering) (loads : JsonLoads) (cfg : Config)
    (plugin : LookupPlugin) (searches : List Search) : Option (List ThaumPerson) :=
  match cfg.groupLookupIdMode with
  | .dn => fetchGroup rendering loads cfg plugin searches
  | .name =>
    match nextEntry searches with
    | none => none
    | some (none, _) => some []
    | some (some group, searches) =>
      if group.entryDn = [] then some []
      else fetchGroup rendering loads cfg plugin searches

/-- `team.lookup_id`, or the team's name in the mode that searches by name. -/
def groupLookupId (cfg : Config) (team : ThaumTeam) : Text :=
  orElse (team.lookupId.getD [])
    (match cfg.groupLookupIdMode with
      | .dn => []
      | .name => team.teamName)

/-- `fetch_team_members`. -/
def fetchTeamMembers (rendering : Rendering) (loads : JsonLoads) (cfg : Config)
    (plugin : LookupPlugin) (team : ThaumTeam) (connected : Bool) (searches : List Search) :
    List ThaumPerson :=
  if groupLookupId cfg team = [] then []
  else if !connected then []
  else (searchTeam rendering loads cfg plugin searches).getD []

end Thaum.Lookup.LdapAd
