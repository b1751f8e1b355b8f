import Thaum.Settings.SchemaBots

/-!
# Checking a configuration without its secrets

Under `schema_only_validation` a reference to a secret stays as it is, and everything else is
validated as before. So the check sees a reference where a run sees a secret, and the
validators that look into a setting can refuse the one and accept the other.

There are two of them: a site URL has to be one of `https`, and a pinned secret has to be long
enough. A configuration that passes with its secrets passes without them exactly if each site
URL that is read is given as a URL, and each pinned secret by a text that is long enough.
-/

namespace Thaum.Settings

open PyText PyModels

section Server

variable {runtime : Runtime} {table config config' server server' : Table} {environ : Environ}

/-- The database table is validated without its secrets too. -/
theorem serverDatabase_follows (runtime : Runtime) : List.Forall₂ (Follows Near)
    (serverDatabaseModel runtime).fields (serverDatabaseModel runtime.schemaOnly).fields := by
  simp only [serverDatabaseModel, List.forall₂_cons, List.Forall₂.nil, and_true]
  exact ⟨optionalSecret_follows runtime _, optionalSecret_follows runtime _,
    scalar_follows (by decide) runtime _ _⟩

/-- The admin table is validated without its secrets too. -/
theorem serverAdmin_follows (runtime : Runtime) : List.Forall₂ (Follows Near)
    (serverAdminModel runtime).fields (serverAdminModel runtime.schemaOnly).fields := by
  simp only [serverAdminModel, List.forall₂_cons, List.Forall₂.nil, and_true]
  exact ⟨scalar_follows (by decide) runtime _ _, optionalSecret_follows runtime _,
    scalar_follows (by decide) runtime _ _, scalar_follows (by decide) runtime _ _⟩

/-- The server table is validated without its secrets too, with its inner tables. -/
theorem server_follows (runtime : Runtime) : List.Forall₂ (Follows Near)
    (serverModel runtime).fields (serverModel runtime.schemaOnly).fields := by
  have database : Follows Near (innerTable "database" (serverDatabaseModel runtime))
      (innerTable "database" (serverDatabaseModel runtime.schemaOnly)) :=
    innerTable_follows (by decide) fun table =>
      validate_of_follows (agree_refl table) (serverDatabase_follows runtime) fun _ _ => rfl
  have admin : Follows Near (innerTable "admin" (serverAdminModel runtime))
      (innerTable "admin" (serverAdminModel runtime.schemaOnly)) :=
    innerTable_follows (by decide) fun table =>
      validate_of_follows (agree_refl table) (serverAdmin_follows runtime) fun _ _ => rfl
  have election : Follows Near (innerTable "election" (serverElectionModel runtime))
      (innerTable "election" (serverElectionModel runtime.schemaOnly)) :=
    innerTable_follows (by decide) fun _ => id
  simp only [serverModel, List.forall₂_cons, List.Forall₂.nil, and_true]
  refine ⟨?_, ?_, ?_, ?_, ?_, database, admin, election⟩
  all_goals exact scalar_follows (by decide) runtime _ _

/-- The fields of the server have different names. -/
theorem serverModel_names (runtime : Runtime) :
    ((serverModel runtime).fields.map ModelField.name).Nodup := by
  change (["base_url", "url_source", "bot_url_prefix", "bot_type", "lookup_plugin", "database",
    "admin", "election"].map String.toList).Nodup
  decide +kernel

/-- An inner table is read from one table, whatever its model is. -/
theorem innerTable_value (name : String) (table : Table) :
    ∃ given : Option Table, ∀ model : ConfigModel Value,
      (innerTable name model).value table =
        given.bind fun given => (model.validate given).map .table := by
  cases isGiven : table.lookup name.toList with
  | none =>
    refine ⟨some [], fun model => ?_⟩
    exact ModelField.value_absent isGiven
  | some given =>
    have read (model : ConfigModel Value) : (innerTable name model).value table =
        (innerTable name model).read given := ModelField.value_given isGiven
    cases given with
    | table entries => exact ⟨some entries, read⟩
    | _ => exact ⟨none, read⟩

/-- A vault passphrase has a reference, which is not blank where the passphrase is not. -/
theorem database_passphrase {db db' : Table} (isRead : readFields table
      (serverDatabaseModel runtime).fields = some db)
    (isRead' : readFields table (serverDatabaseModel runtime.schemaOnly).fields = some db')
    (hasOne : isNonBlank db "database_vault_passphrase" = true) :
    isNonBlank db' "database_vault_passphrase" = true := by
  have distinct (runtime : Runtime) :
      ((serverDatabaseModel runtime).fields.map ModelField.name).Nodup := by
    change (["db_url", "database_vault_passphrase", "data_key_rotate_days"].map
      String.toList).Nodup
    decide +kernel
  have listed (runtime : Runtime) : optionalSecret runtime "database_vault_passphrase" ∈
      (serverDatabaseModel runtime).fields := by simp [serverDatabaseModel]
  obtain ⟨s, isText, _⟩ := isNonBlank_iff.mp hasOne
  have bound : db.lookup "database_vault_passphrase".toList =
      (optionalSecret runtime "database_vault_passphrase").value table :=
    readFields_lookup isRead (distinct runtime) (listed runtime)
  have bound' : db'.lookup "database_vault_passphrase".toList =
      (optionalSecret runtime.schemaOnly "database_vault_passphrase").value table :=
    readFields_lookup isRead' (distinct runtime.schemaOnly) (listed runtime.schemaOnly)
  rw [isNonBlank_iff, bound']
  exact secret_nonBlank (agree_refl table) (bound.symm.trans isText)

/-- The tables of the server in the two modes: the same but for the secrets, which are there. -/
structure SameServer (server server' : Table) : Prop where
  lookup : ∀ name ∈ ["base_url", "bot_url_prefix", "bot_type", "lookup_plugin"],
    server'.lookup name.toList = server.lookup name.toList
  passphrase : hasVaultPassphrase server = true → hasVaultPassphrase server' = true

/-- Setting an entry other than the database keeps two servers the same. -/
theorem SameServer.setEntry {name : String} (same : SameServer server server')
    (notDatabase : "database".toList ≠ name.toList) (value : Value) :
    SameServer (setEntry name value server) (setEntry name value server') where
  lookup := by
    intro other listed
    by_cases isName : other.toList = name.toList
    · rw [isName, lookup_setEntry_self, lookup_setEntry_self]
    · rw [lookup_setEntry_other isName, lookup_setEntry_other isName]
      exact same.lookup other listed
  passphrase := by
    rw [hasVaultPassphrase, hasVaultPassphrase, lookup_setEntry_other notDatabase,
      lookup_setEntry_other notDatabase]
    exact same.passphrase

/-- The servers that are read in the two modes are the same but for the secrets. -/
theorem serverModel_same (isRead : readFields table (serverModel runtime).fields = some config)
    (isRead' : readFields table (serverModel runtime.schemaOnly).fields = some config') :
    SameServer config config' := by
  have same (name : String) (fieldType : FieldType) (default : Option Value) :=
    setting_same name (scalar runtime name fieldType default) rfl (agree_refl table) isRead isRead'
      (serverModel_names runtime) (serverModel_names runtime.schemaOnly)
  constructor
  · intro name listed
    simp only [List.mem_cons, List.not_mem_nil, or_false] at listed
    rcases listed with rfl | rfl | rfl | rfl
    · exact same _ (.optional .str) (some .none) (by simp [serverModel]) (by simp [serverModel])
        (by decide)
    · exact same _ (.optional .str) (some (.text "/bot".toList)) (by simp [serverModel])
        (by simp [serverModel]) (by decide)
    · exact same _ .str none (by simp [serverModel]) (by simp [serverModel]) (by decide)
    · exact same _ .str (some (.text "null".toList)) (by simp [serverModel])
        (by simp [serverModel]) (by decide)
  · intro hasOne
    have listed (runtime : Runtime) : innerTable "database" (serverDatabaseModel runtime) ∈
        (serverModel runtime).fields := by simp [serverModel]
    have bound : config.lookup "database".toList =
        (innerTable "database" (serverDatabaseModel runtime)).value table :=
      readFields_lookup isRead (serverModel_names runtime) (listed runtime)
    have bound' : config'.lookup "database".toList =
        (innerTable "database" (serverDatabaseModel runtime.schemaOnly)).value table :=
      readFields_lookup isRead' (serverModel_names runtime.schemaOnly) (listed runtime.schemaOnly)
    have isSome := readFields_isSome_iff.mp (Option.isSome_of_mem isRead) _ (listed runtime)
    have isSome' := readFields_isSome_iff.mp (Option.isSome_of_mem isRead') _
      (listed runtime.schemaOnly)
    obtain ⟨given, isGiven⟩ := innerTable_value "database" table
    rw [isGiven] at bound bound' isSome isSome'
    obtain ⟨value, isValue⟩ := Option.isSome_iff_exists.mp isSome
    obtain ⟨value', isValue'⟩ := Option.isSome_iff_exists.mp isSome'
    obtain ⟨given, rfl, isDb⟩ := Option.bind_eq_some_iff.mp isValue
    rw [Option.bind_some] at isValue'
    obtain ⟨db, validated, rfl⟩ := Option.map_eq_some_iff.mp isDb
    obtain ⟨db', validated', rfl⟩ := Option.map_eq_some_iff.mp isValue'
    rw [isValue] at bound
    rw [Option.bind_some, isValue'] at bound'
    rw [hasVaultPassphrase, bound] at hasOne
    rw [hasVaultPassphrase, bound']
    exact database_passphrase (validate_some validated).1 (validate_some validated').1 hasOne

/-- The server is loaded without its secrets too. The base URL is resolved from the environment and
the table, which are the same in both modes. -/
theorem serverConfig_schemaOnly
    (validated : serverConfig runtime environ table = some server) :
    ∃ server', serverConfig runtime.schemaOnly environ table = some server' ∧
      SameServer server server' := by
  obtain ⟨config, isConfig, resolved⟩ := Option.bind_eq_some_iff.mp validated
  obtain ⟨url, isUrl, rfl⟩ := Option.map_eq_some_iff.mp resolved
  obtain ⟨config', isConfig'⟩ := Option.isSome_iff_exists.mp (validate_of_follows
    (agree_refl table) (server_follows runtime) (fun _ _ => rfl) (Option.isSome_of_mem isConfig))
  have same := serverModel_same (validate_some isConfig).1 (validate_some isConfig').1
  have sameBase : textSetting config' "base_url" = textSetting config "base_url" := by
    rw [textSetting, textSetting, same.lookup "base_url" (by decide)]
  refine ⟨setEntry "base_url" (.text url.1) (setEntry "url_source" (.text url.2) config'), ?_, ?_⟩
  · rw [serverConfig, isConfig', Option.bind_some, sameBase, isUrl]
    rfl
  · exact (same.setEntry (by decide) _).setEntry (by decide) _

end Server

section Check

variable {runtime : Runtime} {raw table server server' : Table} {environ : Environ}
  {config : LoadedConfig} {lookupType : LookupType} {name : Text}

/-- The name of the lookup plugin in the `[server]` table. -/
def lookupPlugin (runtime : Runtime) (raw : Table) : Option Text :=
  asText ((scalar runtime "lookup_plugin" .str (some (.text "null".toList))).value
    (tableOrEmpty (raw.lookup "server".toList)))

/-- The rows of the bots in the file. -/
def fileRows (raw : Table) : List (Text × Table) :=
  ((tableSetting raw "bots").bind botRows).getD []

/-- What is looked into is there without the secrets. -/
structure ReadableUnresolved (runtime : Runtime) (raw : Table) : Prop where
  ownSite : lookupPlugin runtime raw = some "atlassian".toList →
    SiteIsUrl runtime (ownLookup runtime raw .atlassian)
  lookupConnection : ∀ lookupType, (lookupPlugin runtime raw).bind LookupType.named =
    some lookupType → ConnectionIsUrl runtime raw (ownLookup runtime raw lookupType)
  alertConnection : ∀ entry ∈ fileRows raw, ∀ name, alertType runtime entry.2 = some name →
    ConnectionIsUrl runtime raw (mergedAlert raw entry.2 name)
  pinned : ∀ entry ∈ fileRows raw, PinnedIsLong runtime entry.2

/-- What is loaded of a parsed file: the two validated tables, the rows of the bots and the file
itself. -/
theorem loadAndValidate_some : loadAndValidate runtime environ raw = some config ↔
    ∃ table, raw.lookup "server".toList = some (.table table) ∧ table.isEmpty = false ∧
      (tableSetting raw "bots").bind botRows = some config.bots ∧
      (tableSetting raw "connections").isSome = true ∧
      serverConfig runtime environ table = some config.server ∧
      (tableSetting raw "logging").bind (logModel runtime).validate = some config.log ∧
      config.raw = raw := by
  rw [loadAndValidate]
  split
  next table isTable =>
    rw [isTable]
    simp only [Option.some.injEq, Value.table.injEq, exists_eq_left']
    cases table.isEmpty with
    | true => simp
    | false =>
      simp only [Bool.false_eq_true, if_false, true_and, Option.bind_eq_some_iff,
        Option.map_eq_some_iff, Option.isSome_iff_exists]
      constructor
      · rintro ⟨bots, isBots, connections, isConnections, server, isServer, log, isLog, rfl⟩
        exact ⟨isBots, ⟨connections, isConnections⟩, isServer, isLog, rfl⟩
      · rintro ⟨isBots, ⟨connections, isConnections⟩, isServer, isLog, rfl⟩
        exact ⟨_, isBots, connections, isConnections, _, isServer, _, isLog, rfl⟩
  next noServer =>
    apply iff_of_false (by simp)
    rintro ⟨table, isTable, _⟩
    exact noServer table isTable

/-- A file that is loaded with its secrets is loaded without them, so loading never refuses a
reference. -/
theorem loadAndValidate_schemaOnly (loaded : loadAndValidate runtime environ raw = some config) :
    ∃ server', loadAndValidate runtime.schemaOnly environ raw =
      some { config with server := server' } ∧ SameServer config.server server' := by
  obtain ⟨table, isTable, nonempty, isBots, isConnections, isServer, isLog, isRaw⟩ :=
    loadAndValidate_some.mp loaded
  obtain ⟨server', isServer', same⟩ := serverConfig_schemaOnly isServer
  refine ⟨server', loadAndValidate_some.mpr ?_, same⟩
  exact ⟨table, isTable, nonempty, isBots, isConnections, isServer', isLog, isRaw⟩

/-- The lookup plugin that is loaded is named in the file. -/
theorem loaded_lookupPlugin (loaded : loadAndValidate runtime environ raw = some config) :
    textSetting config.server "lookup_plugin" = lookupPlugin runtime raw := by
  obtain ⟨table, isTable, _, _, _, isServer, _, _⟩ := loadAndValidate_some.mp loaded
  obtain ⟨read, isRead, resolved⟩ := Option.bind_eq_some_iff.mp isServer
  obtain ⟨url, _, isServer⟩ := Option.map_eq_some_iff.mp resolved
  have listed : scalar runtime "lookup_plugin" .str (some (.text "null".toList)) ∈
      (serverModel runtime).fields := by simp [serverModel]
  have value : config.server.lookup "lookup_plugin".toList =
      (scalar runtime "lookup_plugin" .str (some (.text "null".toList))).value table := by
    rw [← isServer, lookup_setEntry_other (by decide), lookup_setEntry_other (by decide)]
    exact readFields_lookup (validate_some isRead).1 (serverModel_names runtime) listed
  rw [textSetting, value, lookupPlugin, isTable]
  rfl

/-- A plugin is found under its own name. -/
theorem lookupType_named (found : LookupType.named name = some lookupType) :
    lookupType.name = name := by
  have isFound := List.find?_some found
  exact of_decide_eq_true isFound

/-- The Atlassian plugin is the one found under `atlassian`. -/
theorem lookupType_atlassian (found : LookupType.named name = some lookupType) :
    lookupType = .atlassian ↔ name = "atlassian".toList := by
  constructor
  · rintro rfl
    exact (lookupType_named found).symm
  · rintro rfl
    exact (Option.some.inj found).symm

/-- The endpoints of the bots are the same in both modes. -/
theorem SameServer.endpoint (same : SameServer server server') (botKey : Text) :
    botEndpoint server' botKey = botEndpoint server botKey := by
  have sameText (name : String)
      (listed : name ∈ ["base_url", "bot_url_prefix", "bot_type", "lookup_plugin"]) :
      textSetting server' name = textSetting server name := by
    rw [textSetting, textSetting, same.lookup name listed]
  rw [botEndpoint, botEndpoint, sameText "base_url" (by decide),
    sameText "bot_url_prefix" (by decide)]

/-- The plugins of the bots are found in both modes or in neither. -/
theorem SameServer.pluginsFound (same : SameServer server server')
    (bots : List (Text × Table)) :
    pluginsFound runtime.schemaOnly server' bots = pluginsFound runtime server bots := by
  have sameType : textSetting server' "bot_type" = textSetting server "bot_type" := by
    rw [textSetting, textSetting, same.lookup "bot_type" (by decide)]
  rw [Settings.pluginsFound, Settings.pluginsFound, sameType]
  rfl

/-- A loaded configuration is validated where its lookup plugin and the plugins of its bots are
found, the lookup table and the bots are validated, and the vault passphrase is there if it is
needed. -/
theorem validateLoaded_isSome :
    (validateLoaded runtime config).isSome = true ↔ ∃ lookupType,
      (textSetting config.server "lookup_plugin").bind LookupType.named = some lookupType ∧
        pluginsFound runtime config.server config.bots = true ∧
          (validateConfigAfterLoad runtime lookupType config.raw).isSome = true ∧
            ∃ bots, validateBots runtime config.raw config.server config.bots = some bots ∧
              (requiresVaultPassphrase bots = true → hasVaultPassphrase config.server = true) := by
  rw [validateLoaded]
  cases (textSetting config.server "lookup_plugin").bind LookupType.named with
  | none => simp
  | some lookupType =>
    simp only [Option.bind_some, Option.some.injEq, exists_eq_left']
    cases pluginsFound runtime config.server config.bots with
    | false => simp
    | true =>
      rw [if_pos rfl]
      cases validateConfigAfterLoad runtime lookupType config.raw with
      | none => simp
      | some lookup =>
        cases validateBots runtime config.raw config.server config.bots with
        | none => simp
        | some bots =>
          cases requiresVaultPassphrase bots <;>
            cases hasVaultPassphrase config.server <;> simp

/-- The loaded configuration is validated without its secrets exactly if what is looked into is
there without them: the site URLs for the lookup table and the bots, and the pinned secrets. -/
theorem validateLoaded_schemaOnly_iff {bots : List ValidatedBot}
    (isLookup : (lookupPlugin runtime raw).bind LookupType.named = some lookupType)
    (passes : (validateConfigAfterLoad runtime lookupType raw).isSome = true)
    (areBots : validateBots runtime raw server (fileRows raw) = some bots) :
    ReadableUnresolved runtime raw ↔
      (validateConfigAfterLoad runtime.schemaOnly lookupType raw).isSome = true ∧
        (validateBots runtime.schemaOnly raw server (fileRows raw)).isSome = true := by
  obtain ⟨name, isName, found⟩ := Option.bind_eq_some_iff.mp isLookup
  rw [lookup_schemaOnly_iff passes, validateBots_schemaOnly_iff (Option.isSome_of_mem areBots)]
  constructor
  · intro readable
    refine ⟨⟨readable.lookupConnection lookupType isLookup, ?_⟩, ?_⟩
    · rintro rfl
      apply readable.ownSite
      rw [isName, (lookupType_atlassian found).mp rfl]
    · intro entry listed
      exact ⟨readable.pinned entry listed, readable.alertConnection entry listed⟩
  · rintro ⟨⟨connection, ownSite⟩, rows⟩
    constructor
    · intro isAtlassian
      rw [isName] at isAtlassian
      obtain rfl := (lookupType_atlassian found).mpr (Option.some.inj isAtlassian)
      exact ownSite rfl
    · intro other isOther
      rw [isLookup] at isOther
      obtain rfl := Option.some.inj isOther
      exact connection
    · intro entry listed
      exact (rows entry listed).2
    · intro entry listed
      exact (rows entry listed).1

/-- A configuration that is accepted with its secrets is accepted without them exactly if each site
URL that is read is given as a URL, and each pinned secret by a text that is long enough.

Proof: loading succeeds in both modes, into servers that are the same but for the secrets. So the
plugins are found, and the passphrase is asked for and there, in both. What is left is the lookup
table and the bots, where the condition says exactly when each is validated without its secrets. -/
theorem schema_check_iff (runtime : Runtime) (environ : Environ) (configRaw : Table)
    (passes : (checkConfig runtime environ configRaw).isSome = true) :
    (checkConfig runtime.schemaOnly environ configRaw).isSome = true ↔
      ReadableUnresolved runtime configRaw := by
  obtain ⟨validated, isValidated⟩ := Option.isSome_iff_exists.mp passes
  obtain ⟨config, loaded, isValid⟩ := Option.bind_eq_some_iff.mp isValidated
  obtain ⟨server', loaded', same⟩ := loadAndValidate_schemaOnly loaded
  obtain ⟨lookupType, isLookup, found, validLookup, bots, areBots, passphrase⟩ :=
    validateLoaded_isSome.mp (Option.isSome_of_mem isValid)
  obtain ⟨_, _, _, isRows, _, _, _, rfl⟩ := loadAndValidate_some.mp loaded
  have areRows : config.bots = fileRows config.raw := by rw [fileRows, isRows, Option.getD_some]
  have isPlugin : (lookupPlugin runtime config.raw).bind LookupType.named = some lookupType := by
    rw [← loaded_lookupPlugin loaded]
    exact isLookup
  have isPlugin' : (textSetting server' "lookup_plugin").bind LookupType.named =
      some lookupType := by
    rw [textSetting, same.lookup "lookup_plugin" (by decide)]
    exact isLookup
  rw [areRows] at areBots
  rw [validateLoaded_schemaOnly_iff isPlugin validLookup areBots, checkConfig, loaded',
    Option.bind_some, validateLoaded_isSome]
  have endpoints : validateBots runtime.schemaOnly config.raw server' config.bots =
      validateBots runtime.schemaOnly config.raw config.server (fileRows config.raw) := by
    rw [areRows]
    exact validateBots_server same.endpoint
  constructor
  · rintro ⟨other, isOther, _, validLookup', bots', areBots', _⟩
    obtain rfl := Option.some.inj (isPlugin'.symm.trans isOther)
    exact ⟨validLookup', Option.isSome_of_mem (endpoints.symm.trans areBots')⟩
  · rintro ⟨validLookup', isSome⟩
    obtain ⟨bots', areBots'⟩ := Option.isSome_iff_exists.mp isSome
    refine ⟨lookupType, isPlugin', ?_, validLookup', bots', endpoints.trans areBots', ?_⟩
    · rw [same.pluginsFound]
      exact found
    · rw [requiresVaultPassphrase_same areBots areBots']
      exact fun required => same.passphrase (passphrase required)

end Check

section Example

/-- The secrets of a deployment. -/
def deployedSecrets : List (Text × Text) :=
  [("env:SITE".toList, "https://x.atlassian.net".toList), ("env:TOKEN".toList, "token".toList),
    ("env:HOOK".toList, "a hook secret that is long".toList),
    ("secret:webex/incident".toList, "another hook secret".toList)]

/-- A resolver of those secrets. -/
def deployedResolver : SecretResolver :=
  { storeResolver with
    resolve := fun s =>
      if isReference storeResolver.schemes s then deployedSecrets.lookup s else some s
    plain := fun s unreferring => by rw [unreferring]; rfl }

/-- A runtime with that resolver, which accepts every network location. -/
def deployedRuntime : Runtime where
  resolver := deployedResolver
  conversions := strictConversions
  valueText _ := []
  netlocAllowed _ := true

/-- The server of an example. -/
def exampleServer (lookupPlugin : Text) : Text × Value :=
  ("server".toList, .table [("base_url".toList, .text "https://thaum.example".toList),
    ("bot_type".toList, .text "webex_bot".toList), ("lookup_plugin".toList, .text lookupPlugin),
    ("database".toList, .table [("database_vault_passphrase".toList, .text "env:TOKEN".toList)])])

/-- A bot without alerts that pins its secret. -/
def exampleBot (hmacSecret : Text) : Table :=
  [("handle".toList, .text "incident".toList), ("token".toList, .text "env:TOKEN".toList),
    ("responders".toList, .list []), ("team_description".toList, .text "Operations".toList),
    ("emergency_warning_message".toList, .text "Call 911".toList),
    ("send_alerts".toList, .bool false), ("high_pri_on".toList, .bool false),
    ("hmac_secret".toList, .text hmacSecret)]

/-- The Atlassian plugin with a site URL. -/
def siteFile (siteUrl : Text) : Table :=
  [exampleServer "atlassian".toList, ("lookup".toList, .table [("atlassian".toList, .table [
    ("site_url".toList, .text siteUrl), ("cloud_id".toList, .text "cloud".toList),
    ("org_id".toList, .text "org".toList), ("user".toList, .text "bot@x".toList),
    ("api_token".toList, .text "env:TOKEN".toList)])])]

/-- A bot with its pinned secret. -/
def hookFile (hmacSecret : Text) : Table :=
  [exampleServer "null".toList,
    ("bots".toList, .table [("incident".toList, .table (exampleBot hmacSecret))])]

/-- A site URL and a pinned secret that stand in the environment are refused by their names,
although both are accepted with the secrets. -/
theorem references_refused :
    ((checkConfig deployedRuntime (fun _ => none) (siteFile "env:SITE".toList)).isSome = true ∧
      checkConfig deployedRuntime.schemaOnly (fun _ => none) (siteFile "env:SITE".toList) = none) ∧
    (checkConfig deployedRuntime (fun _ => none) (hookFile "env:HOOK".toList)).isSome = true ∧
      checkConfig deployedRuntime.schemaOnly (fun _ => none) (hookFile "env:HOOK".toList) =
        none := by
  refine ⟨⟨?_, ?_⟩, ?_, ?_⟩
  · rfl
  · rfl
  · rfl
  · rfl

/-- A site in a connection, and a bot whose secret has a long name. -/
def deployedFile : Table :=
  [exampleServer "atlassian".toList, ("lookup".toList, .table [("atlassian".toList, .table [
    ("connection_ref".toList, .text "site".toList),
    ("api_token".toList, .text "env:TOKEN".toList)])]),
  ("connections".toList, .table [("site".toList, .table [
    ("site_url".toList, .text "https://x.atlassian.net/".toList),
    ("cloud_id".toList, .text "cloud".toList), ("org_id".toList, .text "org".toList),
    ("user".toList, .text "bot@x".toList)])]),
  ("bots".toList, .table
    [("incident".toList, .table (exampleBot "secret:webex/incident".toList))])]

/-- This file is accepted without its secrets, as its site is given as a URL and the name of its
secret is long enough. -/
theorem deployed_checked :
    (checkConfig deployedRuntime.schemaOnly (fun _ => none) deployedFile).isSome = true := by
  refine (schema_check_iff deployedRuntime (fun _ => none) deployedFile rfl).mpr ?_
  have rows : fileRows deployedFile =
      [("incident".toList, exampleBot "secret:webex/incident".toList)] := rfl
  constructor
  · intro _ given own
    cases own
  · intro lookupType isLookup conn isConn
    obtain rfl : LookupType.atlassian = lookupType := Option.some.inj isLookup
    obtain rfl := Option.some.inj isConn
    intro given isGiven
    obtain rfl := Option.some.inj isGiven
    exact Or.inr (Or.inr rfl)
  · rw [rows]
    intro entry listed name isType conn isConn
    obtain rfl := List.mem_singleton.mp listed
    obtain rfl := Option.some.inj isType
    cases isConn
  · rw [rows]
    intro entry listed _ given isGiven
    obtain rfl := List.mem_singleton.mp listed
    obtain rfl := Option.some.inj isGiven
    decide

end Example

end Thaum.Settings
