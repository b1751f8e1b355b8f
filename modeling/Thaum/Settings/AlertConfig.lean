import Thaum.Settings.ServerConfig

/-!
# The configuration of bots and their alert plugins

After the lookup plugin, `validate_config_after_load` validates each bot row and the alert
table of the row: the defaults of its plugin, the row's own settings over them, and a
connection profile under both. Where a bot takes its webhook secret from the database, the
server has to have a vault passphrase.
-/

namespace Thaum.Settings

open PyText PyModels

variable (runtime : Runtime)

/-- The alert plugins of the repository. -/
inductive AlertType where
  | null | jira
deriving DecidableEq

/-- The plugin that `ensure_plugin_loaded` finds under a name. -/
def AlertType.named (name : Text) : Option AlertType :=
  if name = "null".toList then some .null
  else if name = "jira".toList then some .jira
  else none

/-- The lookup plugin that `ensure_plugin_loaded` finds under a name. -/
def LookupType.named (name : Text) : Option LookupType :=
  [LookupType.null, .atlassian, .ldapAd].find? fun lookupType => decide (lookupType.name = name)

/-- A field of type `OptionalResolvedSecret` without a default. -/
def requiredOptionalSecret (name : String) : ModelField Value :=
  { name := name.toList, read := optionalResolvedSecret runtime, default := none }

/-- `BaseAlertPluginConfig` with the default of a subclass for its plugin. -/
def baseAlertFields (plugin : Text) : List (ModelField Value) :=
  [scalar runtime "plugin" .str (some (.text plugin)),
    scalar runtime "status_mentions" .bool (some (.bool true))]

/-- `NullAlertPluginConfig`. -/
def nullAlertModel : ConfigModel Value where
  fields := baseAlertFields runtime "null".toList
  accepts _ := true

/-- `_DEFAULT_STATUS_ACK`. -/
def defaultStatusAck : Text :=
  "{{ responder_mention }} has acknowledged the alert and should be joining you shortly. ".toList ++
    "Allow time to login.".toList

/-- `_DEFAULT_STATUS_UNACK`. -/
def defaultStatusUnack : Text :=
  "{{ responder_mention }} is not able to help you after all, escalating to next level. ".toList ++
    "Thank you for your patience.".toList

/-- `_DEFAULT_STATUS_ESCALATE`. -/
def defaultStatusEscalate : Text :=
  "The alert has been escalated, thank you for your patience.".toList

/-- `_DEFAULT_STATUS_ACCIDENTAL_CLOSE`. -/
def defaultStatusAccidentalClose : Text :=
  "{{ responder_mention }} closed the alert shortly after it was opened. ".toList ++
    "If you meant to respond, please use **Acknowledge** in the Jira app so ".toList ++
    "{{ sender_mention }} knows you are on the way.".toList

/-- `JiraAlertPluginConfig`. -/
def jiraAlertModel : ConfigModel Value where
  fields := baseAlertFields runtime "jira".toList ++
    [scalar runtime "connection_ref" (.optional .str) (some .none),
      requiredOptionalSecret runtime "site_url", requiredOptionalSecret runtime "cloud_id",
      requiredOptionalSecret runtime "user", requiredSecret runtime "api_token",
      resolvedStringList runtime "responders",
      scalar runtime "priority_normal" .str (some (.text "P3".toList)),
      scalar runtime "priority_high" .str (some (.text "P2".toList)),
      scalar runtime "status_webhook_bearer" .str none,
      scalar runtime "send_escalate_msg" .bool (some (.bool false)),
      scalar runtime "status_ack_template" .str (some (.text defaultStatusAck)),
      scalar runtime "status_unack_template" .str (some (.text defaultStatusUnack)),
      scalar runtime "status_escalate_template" .str (some (.text defaultStatusEscalate)),
      scalar runtime "status_accidental_close_minutes" .int (some (.int 10)),
      scalar runtime "status_accidental_close_template" .str
        (some (.text defaultStatusAccidentalClose))]
  accepts _ := true

/-- `get_plugin_config_model`. -/
def AlertType.configModel : AlertType → ConfigModel Value
  | .null => nullAlertModel runtime
  | .jira => jiraAlertModel runtime

/-- `_merge_alert_defaults`. -/
def mergeAlertDefaults (defaultsRoot : Option Value) (alertType : Text) (inst : Table) : Table :=
  let base := tableOrEmpty
    ((tableOrEmpty ((tableOrEmpty defaultsRoot).lookup "alert".toList)).lookup alertType)
  setEntry "plugin" (.text alertType) (inst ++ base)

/-- `_bot_endpoint`. -/
def botEndpoint (server : Table) (botKey : Text) : Text :=
  let botUrlPrefix := orElse ((textSetting server "bot_url_prefix").getD []) "/bot".toList
  (textSetting server "base_url").getD [] ++ rstripSlash botUrlPrefix ++ '/' :: botKey

/-- `_RUNTIME_KEYS`. -/
def runtimeKeys : List Text :=
  ["alert".toList, "_validated_bot".toList, "_validated_alert".toList]

/-- The table that is validated for a bot; a row's own endpoint stays. -/
def cleanRow (server : Table) (botKey : Text) (row : Table) : Table :=
  (row.filter fun entry => !runtimeKeys.contains entry.1) ++
    [("endpoint".toList, .text (botEndpoint server botKey))]

/-- The alert type that is loaded for a row before it is validated. -/
def rowAlertType (row : Table) : Text :=
  match row.lookup "alert_type".toList with
  | some given => pyStr runtime.valueText given
  | none => "null".toList

/-- `validate_bot_config`; the one bot plugin is that of Webex. -/
def validateBotConfig (server : Table) (botKey : Text) (row : Table) : Option Table :=
  webexChatBotConfig runtime (cleanRow server botKey row)

/-- The plugins of the bots are found: that of Webex, and one for each row's alert type. -/
def pluginsFound (server : Table) (bots : List (Text × Table)) : Bool :=
  decide (textSetting server "bot_type" = some "webex_bot".toList) &&
    bots.all fun entry => (AlertType.named (rowAlertType runtime entry.2)).isSome

/-- A bot row with its validated bot and alert tables. -/
structure ValidatedBot where
  bot : Table
  alert : Table

/-- The table that is validated for the alert plugin of a bot. -/
def mergedAlert (raw row : Table) (alertType : Text) : Table :=
  mergeAlertDefaults (raw.lookup "defaults".toList) alertType
    (tableOrEmpty (row.lookup "alert".toList))

/-- The alert table of a bot as it is validated, `none` where that raises. -/
def validateAlert (raw row : Table) (alertType : Text) : Option Table :=
  (mergeConnectionProfile runtime raw (mergedAlert raw row alertType)).bind fun merged =>
    (AlertType.named alertType).bind fun plugin =>
      (plugin.configModel runtime).validateKeeping merged

/-- The loop body over the bots. -/
def validateBot (raw server : Table) (botKey : Text) (row : Table) : Option ValidatedBot :=
  (validateBotConfig runtime server botKey row).bind fun bot =>
    (validateAlert runtime raw row ((textSetting bot "alert_type").getD [])).map fun alert =>
      { bot, alert }

/-- The validated bots, `none` where one is refused. -/
def validateBots (raw server : Table) : List (Text × Table) → Option (List ValidatedBot)
  | [] => some []
  | entry :: rest =>
    (validateBot runtime raw server entry.1 entry.2).bind fun bot =>
      (validateBots raw server rest).map (bot :: ·)

/-- `requires_database_vault_passphrase`. -/
def requiresVaultPassphrase (bots : List ValidatedBot) : Bool :=
  bots.any fun validatedBot => settingIs validatedBot.bot "hmac_mode" "shared_db"

/-- The server has a vault passphrase that is not blank. -/
def hasVaultPassphrase (server : Table) : Bool :=
  isNonBlank (tableOrEmpty (server.lookup "database".toList)) "database_vault_passphrase"

/-- `validate_config_after_load`, with the rows it validated; `none` where it raises. The
lookup table is that of `validateConfigAfterLoad`. -/
def validateLoaded (config : LoadedConfig) : Option (Table × List ValidatedBot) :=
  ((textSetting config.server "lookup_plugin").bind LookupType.named).bind fun lookupType =>
    if pluginsFound runtime config.server config.bots then
      (validateConfigAfterLoad runtime lookupType config.raw).bind fun lookup =>
        (validateBots runtime config.raw config.server config.bots).bind fun bots =>
          if requiresVaultPassphrase bots && !hasVaultPassphrase config.server then none
          else some (lookup, bots)
    else none

/-- `load_and_validate` and `validate_config_after_load`, one after the other. -/
def checkConfig (environ : Environ) (configRaw : Table) : Option (Table × List ValidatedBot) :=
  (loadAndValidate runtime environ configRaw).bind (validateLoaded runtime)

end Thaum.Settings
