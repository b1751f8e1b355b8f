import Thaum.Settings.Secrets

/-!
# The configuration of the lookup plugin

Bootstrap merges the lookup tables and a connection profile into one table, validates it
with the model of the plugin, and builds the plugin from the dump of what it validated. The
plugin validates that dump with the same model and keeps the result.
-/

namespace Thaum.Settings

open PyText PyModels

/-- A table of settings; the first entry of a name counts. -/
abbrev Table := List (Text × Value)

/-- The lookup plugins of the repository. -/
inductive LookupType where
  | null | atlassian | ldapAd
deriving DecidableEq

/-- The name of the plugin's module. -/
def LookupType.name : LookupType → Text
  | .null => "null".toList
  | .atlassian => "atlassian".toList
  | .ldapAd => "ldap_ad".toList

variable (runtime : Runtime)

/-- A field without a validator of its own. -/
def scalar (name : String) (fieldType : FieldType) (default : Option Value) : ModelField Value :=
  { name := name.toList, read := runtime.conversions.convert fieldType, default }

/-- A field of type `OptionalResolvedSecret`. -/
def optionalSecret (name : String) : ModelField Value :=
  { name := name.toList, read := optionalResolvedSecret runtime, default := some .none }

/-- The field `site_url`. -/
def siteUrl : ModelField Value where
  name := "site_url".toList
  read given := (optionalResolvedSecret runtime given).bind (normalizeSiteUrl runtime)
  default := some .none

/-- The field `bind_password`. -/
def bindPassword : ModelField Value where
  name := "bind_password".toList
  read := resolvedSecret runtime
  default := none

/-- `BaseLookupPluginConfig`. -/
def baseLookupFields : List (ModelField Value) :=
  [scalar runtime "default_team_ttl_seconds" .int (some (.int 14400))]

/-- `NullLookupPluginConfig`. -/
def nullConfigModel : ConfigModel Value where
  fields := baseLookupFields runtime
  accepts _ := true

/-- The setting is a text that is not blank. -/
def isNonBlank (config : Table) (name : String) : Bool :=
  match config.lookup name.toList with
  | some (.text s) => decide (strip s ≠ [])
  | _ => false

/-- `AtlassianLookupPluginConfig`. -/
def atlassianConfigModel : ConfigModel Value where
  fields := baseLookupFields runtime ++
    [scalar runtime "connection_ref" (.optional .str) (some .none), siteUrl runtime,
      optionalSecret runtime "cloud_id", optionalSecret runtime "org_id",
      optionalSecret runtime "user", optionalSecret runtime "api_token",
      scalar runtime "teams_page_size" (.intWithin 1 50) (some (.int 50)),
      scalar runtime "http_timeout_seconds" .float (some (.float (.finite 30)))]
  accepts config :=
    ["site_url", "cloud_id", "org_id", "user", "api_token"].all (isNonBlank config)

/-- The formats that `parse_platform_ids_format` knows. -/
def platformIdsFormats : List Text :=
  ["json".toList, "multi-value-attr-delimited".toList, "multi-value-attr-delimited(:)".toList,
    "multi-value-attr-delimited(/)".toList, "multi-value-attr-delimited(,)".toList]

/-- `_validate_platform_ids_config`. -/
def validatePlatformIdsConfig (config : Table) : Bool :=
  match config.lookup "platform_ids_ldap_attribute".toList,
    config.lookup "platform_ids_format".toList with
  | some (.text attr), some (.text format) =>
    decide (attr = []) || decide (strip attr ≠ []) && platformIdsFormats.contains (strip format)
  | _, _ => true

/-- `LdapAdLookupPluginConfig`. -/
def ldapAdConfigModel : ConfigModel Value where
  fields := baseLookupFields runtime ++
    [scalar runtime "server_uri" .str none,
      scalar runtime "use_start_tls" .bool (some (.bool false)),
      scalar runtime "base_dn" .str none, scalar runtime "bind_dn" .str none,
      bindPassword runtime,
      scalar runtime "person_id_mode"
        (.literal ["samaccountname".toList, "uid".toList, "attribute".toList])
        (some (.text "samaccountname".toList)),
      scalar runtime "person_id_attribute" (.optional .str) (some .none),
      scalar runtime "people_search_filter" .str (some (.text [])),
      scalar runtime "email_attribute" .str (some (.text "mail".toList)),
      scalar runtime "fallback_email_attributes" .strList
        (some (.list [.text "userPrincipalName".toList, .text "mail".toList])),
      scalar runtime "display_name_attribute" .str (some (.text "displayName".toList)),
      scalar runtime "group_lookup_id_mode" (.literal ["dn".toList, "name".toList])
        (some (.text "dn".toList)),
      scalar runtime "group_search_base_dn" (.optional .str) (some .none),
      scalar runtime "group_id_attribute" .str (some (.text "distinguishedName".toList)),
      scalar runtime "group_name_attribute" .str (some (.text "cn".toList)),
      scalar runtime "group_member_attribute" .str (some (.text "member".toList)),
      scalar runtime "group_member_id_mode" (.literal ["dn".toList]) (some (.text "dn".toList)),
      scalar runtime "platform_ids_ldap_attribute" (.optional .str) (some .none),
      scalar runtime "platform_ids_format" .str (some (.text "json".toList)),
      scalar runtime "supported_bot_plugin_names" (.optional .strList) (some .none)]
  accepts := validatePlatformIdsConfig

/-- `get_config_model` of a lookup plugin. -/
def LookupType.configModel : LookupType → ConfigModel Value
  | .null => nullConfigModel runtime
  | .atlassian => atlassianConfigModel runtime
  | .ldapAd => ldapAdConfigModel runtime

/-- `AtlassianConnectionConfig`. -/
def atlassianConnectionModel : ConfigModel Value where
  fields := [
    scalar runtime "plugin" (.literal ["atlassian".toList]) (some (.text "atlassian".toList)),
    siteUrl runtime, optionalSecret runtime "cloud_id", optionalSecret runtime "org_id",
    optionalSecret runtime "user", optionalSecret runtime "api_token"]
  accepts _ := true

/-- The entries of a table, `{}` for any other value. -/
def tableOrEmpty : Option Value → Table
  | some (.table entries) => entries
  | _ => []

/-- `merged_lookup_plugin_config`. -/
def mergedLookupPluginConfig (lookupType : LookupType) (lookupRaw : Table) : Table :=
  tableOrEmpty (lookupRaw.lookup lookupType.name) ++
    lookupRaw.filter fun entry =>
      ((baseLookupFields runtime).map ModelField.name).contains entry.1

/-- `bool(value)`. -/
def truthy : Value → Bool
  | .none => false
  | .bool b => b
  | .int n => n != 0
  | .float f => f != .finite 0
  | .text s => !s.isEmpty
  | .date _ => true
  | .list items => !items.isEmpty
  | .table entries => !entries.isEmpty
  | .secret s => !s.isEmpty

/-- The connection a consumer's table refers to. -/
def connectionRef (consumer : Table) : Option Text :=
  match consumer.lookup "connection_ref".toList with
  | none | some .none => none
  | some (.text s) => if strip s = [] then none else some (strip s)
  | some given => some (strip (pyStr runtime.valueText given))

/-- The plugin of a connection. -/
def connectionPlugin (connRaw : Table) : Text :=
  match connRaw.lookup "plugin".toList with
  | some given => if truthy given then pyStr runtime.valueText given else "atlassian".toList
  | none => "atlassian".toList

/-- `merge_connection_profile`, `none` where it raises; the one connection plugin is that of
Atlassian. -/
def mergeConnectionProfile (fullConfig consumer : Table) : Option Table :=
  match connectionRef runtime consumer with
  | none => some consumer
  | some ref =>
    match (tableOrEmpty (fullConfig.lookup "connections".toList)).lookup ref with
    | some (.table connRaw) =>
      if connectionPlugin runtime connRaw = "atlassian".toList then
        ((atlassianConnectionModel runtime).validate connRaw).map fun base =>
          (consumer ++ base.filter fun entry => entry.1 ≠ "plugin".toList).filter
            fun entry => entry.1 ≠ "connection_ref".toList
      else none
    | _ => none

/-- The table that bootstrap validates for the plugin. -/
def mergedLookup (lookupType : LookupType) (fullConfig : Table) : Option Table :=
  mergeConnectionProfile runtime fullConfig
    (mergedLookupPluginConfig runtime lookupType
      (tableOrEmpty (fullConfig.lookup "lookup".toList)))

/-- The lookup configuration that `validate_config_after_load` returns. -/
def validateConfigAfterLoad (lookupType : LookupType) (fullConfig : Table) : Option Table :=
  (mergedLookup runtime lookupType fullConfig).bind (lookupType.configModel runtime).validate

/-- `model_dump(mode="python")`: the values of the fields as they are. -/
def modelDump (validated : Table) : Table := validated

/-- `initialize_lookup_plugin`: the configuration that the plugin holds. -/
def initializeLookupPlugin (lookupType : LookupType) (configRaw : Table) : Option Table :=
  (lookupType.configModel runtime).validate configRaw

/-- A text that an optional secret of the table is resolved to. -/
def ResolvedAt (table : Table) (name : String) (s : Text) : Prop :=
  ∃ given, table.lookup name.toList = some given ∧
    optionalResolvedSecret runtime given = some (.text s)

/-- The secrets of an Atlassian plugin. -/
def atlassianSecrets : List String := ["cloud_id", "org_id", "user", "api_token"]

/-- No secret is resolved to a text that refers to one again. -/
def PlainSecrets (table : Table) : Prop :=
  ∀ name ∈ atlassianSecrets, ∀ s, ResolvedAt runtime table name s → runtime.refers s = false

/-- The secrets of a table that are the same when they are read twice. -/
def Keeps (table : Table) : LookupType → Prop
  | .null => True
  | .atlassian =>
    (∀ name ∈ atlassianSecrets, ∀ s, ResolvedAt runtime table name s → Settled runtime s) ∧
      ∀ url, ResolvedAt runtime table "site_url" url →
        strip (rstripSlash (strip url)) = rstripSlash (strip url)
  | .ldapAd =>
    ∀ given ∈ table.lookup "bind_password".toList,
      ∀ password ∈ runtime.resolve (pyStr runtime.valueText given), password = [] ∨ password = mask

variable {runtime} {table fullConfig validated : Table} {name : String} {s t base : Text}

/-- A field without a validator is read back as it is: its default is of its type. -/
theorem scalar_rereads {fieldType : FieldType} {default : Option Value}
    (fits : ∀ value ∈ default, fieldType.admits value = true) :
    (scalar runtime name fieldType default).Rereads table := by
  intro value isValue
  rw [Option.mem_def, ModelField.value] at isValue
  split at isValue
  · exact runtime.conversions.convert_again isValue
  · exact runtime.conversions.exact (fits value isValue)

/-- A name is resolved to one text at most. -/
theorem resolvedAt_unique (first : ResolvedAt runtime table name s)
    (second : ResolvedAt runtime table name t) : s = t := by
  obtain ⟨given, isGiven, isFirst⟩ := first
  obtain ⟨given', isGiven', isSecond⟩ := second
  obtain rfl := Option.some.inj (isGiven.symm.trans isGiven')
  exact Value.text.inj (Option.some.inj (isFirst.symm.trans isSecond))

/-- A text that an optional secret is read as is what its setting is resolved to. -/
theorem optionalSecret_resolved
    (isValue : (optionalSecret runtime name).value table = some (.text s)) :
    ResolvedAt runtime table name s := by
  rw [ModelField.value] at isValue
  split at isValue
  · rename_i given isGiven
    exact ⟨given, isGiven, isValue⟩
  · exact absurd (Option.some.inj isValue) Value.noConfusion

/-- An optional secret that is set to a plain text is read back as it is exactly where that text is
settled, that is, resolved again to itself. -/
theorem optionalSecret_rereads_iff (nonBlank : strip s ≠ [])
    (isValue : (optionalSecret runtime name).value table = some (.text s))
    (plain : ∀ s, ResolvedAt runtime table name s → runtime.refers s = false) :
    (optionalSecret runtime name).Rereads table ↔
      ∀ s, ResolvedAt runtime table name s → Settled runtime s := by
  have resolved := optionalSecret_resolved isValue
  have again := optional_again nonBlank (plain s resolved)
  constructor
  · intro rereads s' isResolved
    rw [resolvedAt_unique isResolved resolved]
    exact again.mp (rereads _ isValue)
  · intro settled value isValue'
    rw [isValue] at isValue'
    rw [← Option.some.inj isValue']
    exact again.mpr (settled s resolved)

/-- A site URL that is set is the base URL of the text it is resolved to. -/
theorem siteUrl_resolved (nonBlank : strip base ≠ [])
    (isValue : (siteUrl runtime).value table = some (.text base)) :
    ∃ url, ResolvedAt runtime table "site_url" url ∧
      normalizeHttpsBaseUrl runtime url = some base := by
  rw [ModelField.value] at isValue
  split at isValue
  · rename_i given isGiven
    obtain ⟨resolved, isResolved, normalized⟩ := Option.bind_eq_some_iff.mp isValue
    cases resolved with
    | text url =>
      rw [normalizeSiteUrl] at normalized
      split at normalized
      · rename_i blank
        rw [Value.text.inj (Option.some.inj normalized)] at blank
        exact absurd blank nonBlank
      · obtain ⟨_, isBase, isText⟩ := Option.map_eq_some_iff.mp normalized
        rw [Value.text.inj isText] at isBase
        exact ⟨url, ⟨given, isGiven, isResolved⟩, isBase⟩
    | _ => exact absurd (Option.some.inj normalized) Value.noConfusion
  · exact absurd (Option.some.inj isValue) Value.noConfusion

/-- The site URL, where it is set, is read back as it is exactly where no blank is left behind once
the slashes at its end are taken off. -/
theorem siteUrl_rereads_iff (nonBlank : strip base ≠ [])
    (isValue : (siteUrl runtime).value table = some (.text base)) :
    (siteUrl runtime).Rereads table ↔ ∀ url, ResolvedAt runtime table "site_url" url →
      strip (rstripSlash (strip url)) = rstripSlash (strip url) := by
  obtain ⟨url, resolved, normalized⟩ := siteUrl_resolved nonBlank isValue
  obtain ⟨_, _, rfl⟩ := normalizeHttpsBaseUrl_some.mp normalized
  have again := siteUrl_again normalized
  constructor
  · intro rereads url' isResolved
    rw [resolvedAt_unique isResolved resolved]
    exact again.mp (rereads _ isValue)
  · intro trimmed value isValue'
    rw [isValue] at isValue'
    rw [← Option.some.inj isValue']
    exact again.mpr (trimmed url resolved)

/-- The password of the directory is read back as its mask, so it is kept only where it is empty or
the mask itself. -/
theorem bindPassword_rereads_iff :
    (bindPassword runtime).Rereads table ↔ Keeps runtime table .ldapAd := by
  constructor
  · intro rereads given isGiven password isPassword
    have isValue : (bindPassword runtime).value table = some (.secret password) := by
      rw [ModelField.value_given isGiven]
      exact Option.map_eq_some_iff.mpr ⟨password, isPassword, rfl⟩
    exact (secret_again password).mp (rereads _ isValue)
  · intro kept value isValue
    rw [Option.mem_def, ModelField.value] at isValue
    split at isValue
    · rename_i given isGiven
      obtain ⟨password, isPassword, rfl⟩ := Option.map_eq_some_iff.mp isValue
      exact (secret_again password).mpr (kept given isGiven password isPassword)
    · exact absurd isValue.symm (Option.some_ne_none value)

/-- A setting that is not blank is a text with something other than blanks. -/
theorem isNonBlank_iff {config : Table} :
    isNonBlank config name = true ↔
      ∃ s, config.lookup name.toList = some (.text s) ∧ strip s ≠ [] := by
  rw [isNonBlank]
  split
  · rename_i s isText
    simp [isText]
  · rename_i other
    apply iff_of_false Bool.false_ne_true
    rintro ⟨s, isText, _⟩
    exact other s isText

/-- The fields of each model have different names, so validating a dump reads each field from its
own entry. -/
theorem fields_distinct (runtime : Runtime) (lookupType : LookupType) :
    ((lookupType.configModel runtime).fields.map ModelField.name).Nodup := by
  cases lookupType with
  | null => exact List.nodup_singleton _
  | atlassian =>
    change (["default_team_ttl_seconds", "connection_ref", "site_url", "cloud_id", "org_id", "user",
      "api_token", "teams_page_size", "http_timeout_seconds"].map String.toList).Nodup
    decide +kernel
  | ldapAd =>
    change (["default_team_ttl_seconds", "server_uri", "use_start_tls", "base_dn", "bind_dn",
      "bind_password", "person_id_mode", "person_id_attribute", "people_search_filter",
      "email_attribute", "fallback_email_attributes", "display_name_attribute",
      "group_lookup_id_mode", "group_search_base_dn", "group_id_attribute",
      "group_name_attribute", "group_member_attribute", "group_member_id_mode",
      "platform_ids_ldap_attribute", "platform_ids_format",
      "supported_bot_plugin_names"].map String.toList).Nodup
    decide +kernel

/-- Each secret of the plugin is a field of its model. -/
theorem atlassian_secret {name : String} (isSecret : name ∈ atlassianSecrets) :
    optionalSecret runtime name ∈ (atlassianConfigModel runtime).fields := by
  simp only [atlassianSecrets, List.mem_cons, List.not_mem_nil, or_false] at isSecret
  rcases isSecret with rfl | rfl | rfl | rfl <;> simp [atlassianConfigModel]

/-- The Atlassian plugin holds what was validated exactly if the table keeps its secrets. The check
of its model makes sure that the site and the token are there at all. -/
theorem atlassian_rereads_iff
    (accepted : (atlassianConfigModel runtime).validate table = some validated)
    (plain : PlainSecrets runtime table) :
    (∀ field ∈ (atlassianConfigModel runtime).fields, field.Rereads table) ↔
      Keeps runtime table .atlassian := by
  obtain ⟨isRead, required⟩ := validate_some accepted
  have isSet (field : ModelField Value) (listed : field ∈ (atlassianConfigModel runtime).fields)
      (name : String) (isName : field.name = name.toList)
      (isRequired : name ∈ ["site_url", "cloud_id", "org_id", "user", "api_token"]) :
      ∃ s, field.value table = some (.text s) ∧ strip s ≠ [] := by
    have distinct := fields_distinct runtime .atlassian
    rw [← readFields_lookup isRead distinct listed, isName]
    exact isNonBlank_iff.mp (List.all_eq_true.mp required name isRequired)
  have secret (name : String) (listed : name ∈ atlassianSecrets) :
      (optionalSecret runtime name).Rereads table ↔
        ∀ s, ResolvedAt runtime table name s → Settled runtime s := by
    obtain ⟨s, isValue, nonBlank⟩ :=
      isSet _ (atlassian_secret listed) name rfl (List.mem_cons_of_mem _ listed)
    exact optionalSecret_rereads_iff nonBlank isValue (plain name listed)
  have url : (siteUrl runtime).Rereads table ↔
      ∀ url, ResolvedAt runtime table "site_url" url →
        strip (rstripSlash (strip url)) = rstripSlash (strip url) := by
    obtain ⟨base, isValue, nonBlank⟩ := isSet (siteUrl runtime)
      (by simp [atlassianConfigModel]) "site_url" rfl List.mem_cons_self
    exact siteUrl_rereads_iff nonBlank isValue
  rw [Keeps, ← url, ← forall₂_congr secret]
  have others : ∀ field ∈ (atlassianConfigModel runtime).fields,
      field.Rereads table ∨ field = siteUrl runtime ∨
        ∃ name ∈ atlassianSecrets, field = optionalSecret runtime name := by
    simp [atlassianConfigModel, baseLookupFields, scalar_rereads, FieldType.admits,
      atlassianSecrets]
  constructor
  · intro rereads
    refine ⟨fun name listed => ?_, ?_⟩
    · exact rereads _ (atlassian_secret listed)
    · exact rereads _ (by simp [atlassianConfigModel])
  · rintro ⟨secrets, siteUrl⟩ field listed
    rcases others field listed with rereads | rfl | ⟨name, isSecret, rfl⟩
    · exact rereads
    · exact siteUrl
    · exact secrets name isSecret

/-- The plugin that bootstrap builds holds the configuration it validated, secrets included, exactly
if the secrets of the merged table are kept when they are read twice.

Proof: validating the dump reads every field again, from the value it was read as. So the result is
the same exactly where each field is read back as it is. Fields without a validator always are; for
the secrets and the site URL the conditions of the table say when. -/
theorem runs_as_validated_iff (runtime : Runtime) (lookupType : LookupType)
    (fullConfig table validated : Table)
    (merged : mergedLookup runtime lookupType fullConfig = some table)
    (accepted : validateConfigAfterLoad runtime lookupType fullConfig = some validated)
    (plain : PlainSecrets runtime table) :
    initializeLookupPlugin runtime lookupType (modelDump validated) = some validated ↔
      Keeps runtime table lookupType := by
  rw [validateConfigAfterLoad, merged, Option.bind_some] at accepted
  have again := validate_again_iff (fields_distinct runtime lookupType) accepted
  apply again.trans
  cases lookupType with
  | null =>
    refine iff_of_true ?_ trivial
    intro field listed
    rw [List.mem_singleton.mp listed]
    exact scalar_rereads (by simp [FieldType.admits])
  | atlassian => exact atlassian_rereads_iff accepted plain
  | ldapAd =>
    rw [← bindPassword_rereads_iff]
    simp [LookupType.configModel, ldapAdConfigModel, baseLookupFields, scalar_rereads,
      FieldType.admits]

section Example

/-- The secrets that references are resolved to. -/
def storedSecrets : List (Text × Text) :=
  [("secret:bind".toList, "correct horse".toList), ("env:TOKEN".toList, "token".toList)]

/-- A resolver of three schemes. -/
def storeResolver : SecretResolver where
  schemes := ["env".toList, "file".toList, "secret".toList]
  resolve s :=
    if isReference ["env".toList, "file".toList, "secret".toList] s then storedSecrets.lookup s
    else some s
  solid := by decide
  notHttps := by decide
  plain s unreferring := by rw [unreferring]; rfl

/-- A runtime with that resolver, which accepts every network location. -/
def storeRuntime : Runtime where
  resolver := storeResolver
  conversions := strictConversions
  valueText _ := []
  netlocAllowed _ := true

/-- A directory with its password in a store. -/
def directoryConfig : Table :=
  [("lookup".toList, .table [("ldap_ad".toList, .table [
    ("server_uri".toList, .text "ldaps://dc1".toList), ("base_dn".toList, .text "dc=x".toList),
    ("bind_dn".toList, .text "cn=thaum".toList),
    ("bind_password".toList, .text "secret:bind".toList)])])]

/-- What bootstrap validates for the directory. -/
def directoryValidated : Table :=
  (validateConfigAfterLoad storeRuntime .ldapAd directoryConfig).getD []

/-- The plugin binds with the mask of the password that bootstrap validated, since the dump shows a
secret and the validator takes its `str`. -/
theorem directory_password_masked :
    validateConfigAfterLoad storeRuntime .ldapAd directoryConfig = some directoryValidated ∧
      directoryValidated.lookup "bind_password".toList = some (.secret "correct horse".toList) ∧
        storeRuntime.refers "correct horse".toList = false ∧
          ∃ held, initializeLookupPlugin storeRuntime .ldapAd (modelDump directoryValidated) =
            some held ∧ held ≠ directoryValidated ∧
              held.lookup "bind_password".toList = some (.secret mask) := by
  refine ⟨rfl, rfl, rfl, _, rfl, ?_, rfl⟩
  intro same
  have password := congrArg (List.lookup "bind_password".toList) same
  exact absurd (Value.secret.inj (Option.some.inj password)) (by decide)

/-- A site with its connection in a profile and its token in the environment. -/
def siteConfig : Table :=
  [("lookup".toList, .table [("atlassian".toList, .table [
    ("connection_ref".toList, .text "site".toList),
    ("api_token".toList, .text "env:TOKEN".toList)])]),
  ("connections".toList, .table [("site".toList, .table [
    ("site_url".toList, .text "https://x.atlassian.net/".toList),
    ("cloud_id".toList, .text "cloud".toList), ("org_id".toList, .text "org".toList),
    ("user".toList, .text "bot@x".toList)])])]

/-- The table that bootstrap validates for the site. -/
def siteTable : Table := (mergedLookup storeRuntime .atlassian siteConfig).getD []

/-- What bootstrap validates for the site. -/
def siteValidated : Table :=
  (validateConfigAfterLoad storeRuntime .atlassian siteConfig).getD []

/-- The plugin of the site runs with what was validated, as its token is settled and its URL has no
blanks. -/
theorem site_runs_as_validated :
    initializeLookupPlugin storeRuntime .atlassian (modelDump siteValidated) =
      some siteValidated := by
  refine (runs_as_validated_iff storeRuntime .atlassian siteConfig siteTable siteValidated rfl rfl
    ?_).mpr ⟨?_, ?_⟩
  · intro name listed s resolved
    simp only [atlassianSecrets, List.mem_cons, List.not_mem_nil, or_false] at listed
    rcases listed with rfl | rfl | rfl | rfl <;>
      rw [resolvedAt_unique resolved ⟨_, rfl, rfl⟩] <;> rfl
  · intro name listed s resolved
    simp only [atlassianSecrets, List.mem_cons, List.not_mem_nil, or_false] at listed
    left
    rcases listed with rfl | rfl | rfl | rfl <;>
      rw [resolvedAt_unique resolved ⟨_, rfl, rfl⟩] <;> rfl
  · intro url resolved
    rw [resolvedAt_unique resolved ⟨_, rfl, rfl⟩]
    rfl

end Example

end Thaum.Settings
