import Thaum.Admin.LogLevel
import Thaum.Settings.BotConfig

/-!
# The server and logging tables

Loading a configuration validates the `[server]` table with its three inner tables and the
`[logging]` table, and takes the other tables as they are. The base URL comes from the
environment, from the table or from the platform, in that order.
-/

namespace Thaum.Settings

open PyText PyModels
open AdminLogLevel (LogLevel)

variable (runtime : Runtime)

/-- `os.environ.get`. -/
abbrev Environ := Text → Option Text

/-- A field that holds a table with a model of its own. -/
def innerTable (name : String) (model : ConfigModel Value) : ModelField Value where
  name := name.toList
  read
    | .table given => (model.validate given).map .table
    | _ => none
  default := (model.validate []).map .table

/-- `ServerDatabaseConfig`. -/
def serverDatabaseModel : ConfigModel Value where
  fields := [optionalSecret runtime "db_url", optionalSecret runtime "database_vault_passphrase",
    scalar runtime "data_key_rotate_days" .int (some (.int 60))]
  accepts _ := true

/-- `ServerAdminConfig`. -/
def serverAdminModel : ConfigModel Value where
  fields := [scalar runtime "route_id" .str (some (.text [])),
    optionalSecret runtime "hmac_secret_b64url",
    scalar runtime "clock_skew_seconds" .int (some (.int 300)),
    scalar runtime "log_state_poll_seconds" .float (some (.float (.finite 0)))]
  accepts _ := true

/-- `ServerElectionConfig`. -/
def serverElectionModel : ConfigModel Value where
  fields := [scalar runtime "namespace" .str (some (.text "thaum".toList)),
    scalar runtime "lease_seconds" .int (some (.int 60)),
    scalar runtime "heartbeat_seconds" .float (some (.float (.finite 15))),
    scalar runtime "leader_init_wait_timeout_seconds" .float (some (.float (.finite 300)))]
  accepts _ := true

/-- `BaseUrlSource`. -/
def baseUrlSources : List Text :=
  ["config".toList, "environment".toList, "google".toList, "azure".toList, "aws".toList]

/-- The fields of `ServerConfig`. -/
def serverModel : ConfigModel Value where
  fields := [scalar runtime "base_url" (.optional .str) (some .none),
    scalar runtime "url_source" (.optional (.literal baseUrlSources)) (some .none),
    scalar runtime "bot_url_prefix" (.optional .str) (some (.text "/bot".toList)),
    scalar runtime "bot_type" .str none,
    scalar runtime "lookup_plugin" .str (some (.text "null".toList)),
    innerTable "database" (serverDatabaseModel runtime),
    innerTable "admin" (serverAdminModel runtime),
    innerTable "election" (serverElectionModel runtime)]
  accepts _ := true

/-- `_strip_base_url_candidate`. -/
def stripBaseUrlCandidate (value : Option Text) : Option Text :=
  value.bind fun s => if strip s = [] then none else some (strip s)

/-- `_resolve_base_url`: the URL and its source, `none` where it raises. -/
def resolveBaseUrl (environ : Environ) (configBaseUrl : Option Text) : Option (Text × Text) :=
  let candidate (name : String) := stripBaseUrlCandidate (environ name.toList)
  let whenSet (name : String) := fun (url : Option Text) =>
    if (environ name.toList).isSome then url else none
  let source (name : String) (url : Option Text) := url.map fun s => (rstripSlash s, name.toList)
  let containerApp := (candidate "CONTAINER_APP_NAME").bind fun app =>
    (candidate "CONTAINER_APP_ENV_DNS_SUFFIX").map fun suffix =>
      "https://".toList ++ app ++ '.' :: suffix.dropWhile (· == '.')
  source "environment" (candidate "THAUM_BASE_URL") <|>
    source "config" (stripBaseUrlCandidate configBaseUrl) <|>
    source "google" (whenSet "K_SERVICE" (candidate "K_SERVICE_URL")) <|>
    source "azure" containerApp <|>
    source "azure" (whenSet "WEBSITE_HOSTNAME"
      ((candidate "WEBSITE_HOSTNAME").map ("https://".toList ++ ·))) <|>
    source "aws" (candidate "AWS_APP_RUNNER_SERVICE_URL")

/-- A value that is a text. -/
def asText : Option Value → Option Text
  | some (.text s) => some s
  | _ => none

/-- A setting that is a text. -/
def textSetting (config : Table) (name : String) : Option Text := asText (config.lookup name.toList)

/-- `ServerConfig(**table)`, with `resolve_url`. -/
def serverConfig (environ : Environ) (table : Table) : Option Table :=
  ((serverModel runtime).validate table).bind fun config =>
    (resolveBaseUrl environ (textSetting config "base_url")).map fun resolved =>
      setEntry "base_url" (.text resolved.1) (setEntry "url_source" (.text resolved.2) config)

/-- `LogLevelSetting`. -/
def logLevelSetting : Value → Option Value
  | .text s => (LogLevel.members.lookup (upper (strip s))).map fun level => .int level.value
  | given => (runtime.conversions.convert .int given).filter fun
    | .int n => LogLevel.members.any fun member => decide ((member.2.value : Int) = n)
    | _ => false

/-- `DEFAULT_LOG_FILE_PATH`. -/
def defaultLogFilePath : Text := "/var/log/thaum/thaum.log".toList

/-- `DEFAULT_JSON_LOG_FILE_PATH`. -/
def defaultJsonLogFilePath : Text := "/var/log/thaum/thaum.json".toList

/-- `_normalize_log_file_value`. -/
def normalizeLogFileValue : Value → Option Value
  | .none => some .none
  | .bool b => some (if b then .text defaultLogFilePath else .none)
  | .int n =>
    if n = 0 then some .none else if n = 1 then some (.text defaultLogFilePath) else none
  | given =>
    let s := strip (pyStr runtime.valueText given)
    let low := lower s
    if s.isEmpty || ["no".toList, "false".toList, "0".toList].contains low then some .none
    else if ["yes".toList, "true".toList, "1".toList].contains low then
      some (.text defaultLogFilePath)
    else some (.text s)

/-- `_normalize_json_log_value`. -/
def normalizeJsonLogValue : Value → Option Value
  | .none => some .none
  | .bool b => some (if b then .text defaultJsonLogFilePath else .none)
  | .int n =>
    if n = 0 then some .none else if n = 1 then some (.text defaultJsonLogFilePath) else none
  | given =>
    let s := strip (pyStr runtime.valueText given)
    let low := lower s
    if s.isEmpty || ["no".toList, "false".toList, "0".toList, "off".toList].contains low then
      some .none
    else if ["yes".toList, "true".toList, "1".toList, "on".toList, "truthy".toList].contains low
    then some (.text defaultJsonLogFilePath)
    else if low = "stderr".toList then some (.text "stderr".toList)
    else if startsWith low "file:".toList then
      let path := strip (s.drop 5)
      if path = [] then none else some (.text path)
    else none

/-- `_normalize_override_env_boolean`. -/
def normalizeOverrideEnvBoolean : Value → Bool
  | .bool b => b
  | .none => false
  | .int n => n != 0
  | given => ["1".toList, "true".toList, "yes".toList, "on".toList, "truthy".toList].contains
      (lower (strip (pyStr runtime.valueText given)))

/-- A field with a validator in place of its annotation. -/
def validatedField (name : String) (read : Value → Option Value) (default : Value) :
    ModelField Value :=
  { name := name.toList, read, default := some default }

/-- `LogConfig`. -/
def logModel : ConfigModel Value where
  fields := [validatedField "level" (logLevelSetting runtime) (.int 20),
    scalar runtime "timezone" .str (some (.text "UTC".toList)),
    scalar runtime "no_timestamp" .bool (some (.bool false)),
    scalar runtime "fractional_seconds" .bool (some (.bool false)),
    validatedField "file" (normalizeLogFileValue runtime) .none,
    validatedField "json_log" (normalizeJsonLogValue runtime) .none,
    validatedField "override_env" (some ∘ .bool ∘ normalizeOverrideEnvBoolean runtime)
      (.bool false),
    scalar runtime "file_backup_count" .int (some (.int 5))]
  accepts _ := true

/-- The rows of `[bots]`, `none` where one of them is no table. -/
def botRows : Table → Option (List (Text × Table))
  | [] => some []
  | (botId, .table row) :: rest => (botRows rest).map ((botId, row) :: ·)
  | _ => none

/-- What `load_and_validate` returns: the two validated tables, the rows of the bots, and the
parsed file with the tables that are taken from it as they are. -/
structure LoadedConfig where
  server : Table
  log : Table
  bots : List (Text × Table)
  raw : Table

/-- A table of the file, empty when it is not there, `none` when it is something else. -/
def tableSetting (config : Table) (name : String) : Option Table :=
  match config.lookup name.toList with
  | none => some []
  | some (.table entries) => some entries
  | some _ => none

/-- `load_and_validate` of a parsed file, `none` where it raises. -/
def loadAndValidate (environ : Environ) (configRaw : Table) : Option LoadedConfig :=
  match configRaw.lookup "server".toList with
  | some (.table server) =>
    if server.isEmpty then none
    else
      ((tableSetting configRaw "bots").bind botRows).bind fun bots =>
        (tableSetting configRaw "connections").bind fun _ =>
          (serverConfig runtime environ server).bind fun server =>
            ((tableSetting configRaw "logging").bind (logModel runtime).validate).map fun log =>
              { server, log, bots, raw := configRaw }
  | _ => none

end Thaum.Settings
