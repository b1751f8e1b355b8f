import Thaum.Settings.LookupConfig

/-!
# The configuration of a Webex bot

A validator before the fields decides from the table how webhooks are signed, and one after
them checks a pinned secret and drops a secret that is not to be used. Names that are no
fields are ignored.
-/

namespace Thaum.Settings

open PyText PyModels

variable (runtime : Runtime)

/-- A field that is one of some texts. -/
def literalField (name : String) (options : List Text) (default : Option Value) :
    ModelField Value where
  name := name.toList
  read given := if (FieldType.literal options).admits given then some given else none
  default := default

/-- The number is at least the bound. -/
def atLeast (bound : Int) : Value → Bool
  | .float (.finite q) => decide ((bound : Rat) ≤ q)
  | .float (.infinity negative) => !negative
  | _ => false

/-- A field `float = Field(ge=…)`. -/
def floatAtLeast (name : String) (bound : Int) (default : Option Value) : ModelField Value where
  name := name.toList
  read given := (runtime.conversions.convert .float given).filter (atLeast bound)
  default := default

/-- `_resolved_list_entry`. -/
def resolvedListEntry (given : Value) : Option Value :=
  let s := strip (pyStr runtime.valueText given)
  if s = [] then some (.text []) else (runtime.resolve s).map .text

/-- The entries of a `ResolvedStringList`. -/
def resolvedEntries : List Value → Option (List Value)
  | [] => some []
  | given :: rest =>
    (resolvedListEntry runtime given).bind fun entry => (resolvedEntries rest).map (entry :: ·)

/-- A field of type `ResolvedStringList`. -/
def resolvedStringList (name : String) : ModelField Value where
  name := name.toList
  read
    | .list items => (resolvedEntries runtime items).map .list
    | _ => none
  default := none

/-- A field of type `ResolvedSecret`. -/
def requiredSecret (name : String) : ModelField Value :=
  { name := name.toList, read := resolvedSecret runtime, default := none }

/-- `BaseChatBotConfig`. -/
def baseChatBotFields : List (ModelField Value) :=
  [scalar runtime "handle" .str none, scalar runtime "endpoint" .str none,
    scalar runtime "high_pri_on" (.optional .bool) (some (.bool true)),
    scalar runtime "send_alerts" (.optional .bool) (some (.bool true)),
    resolvedStringList runtime "responders",
    scalar runtime "room_title_template" (.optional .str)
      (some (.text "{{requester_name}} - {{team_description}} {{date}}".toList)),
    scalar runtime "customer_service_message_template" (.optional .str)
      (some (.text ("Thank you for your patience.  The next available person from ".toList ++
        "{{ team_description }} will be with you shortly.".toList))),
    scalar runtime "incident_prompt_card_template" (.optional .str) (some .none),
    scalar runtime "incident_prompt_card_template_path" (.optional .str) (some .none),
    scalar runtime "display_name" (.optional .str) (some .none),
    scalar runtime "phone_number" (.optional .str) (some .none),
    scalar runtime "card_extra_text_template" (.optional .str) (some .none),
    scalar runtime "alert_type" .str (some (.text "null".toList)),
    scalar runtime "team_description" .str none,
    scalar runtime "emergency_warning_message" (.optional .str) none]

/-- The truth of a setting. -/
def isSet (config : Table) (name : String) : Bool := (config.lookup name.toList).any truthy

/-- The setting is that text. -/
def settingIs (config : Table) (name text : String) : Bool :=
  match config.lookup name.toList with
  | some (.text s) => decide (s = text.toList)
  | _ => false

/-- `consistent_alert_settings`. -/
def consistentAlertSettings (config : Table) : Bool :=
  if isSet config "send_alerts" && settingIs config "alert_type" "null" then false
  else if !isSet config "send_alerts" && !settingIs config "alert_type" "null" then false
  else !(isSet config "high_pri_on" && !isSet config "send_alerts")

/-- `MIN_HMAC_SECRET_CHARS`. -/
def minHmacSecretChars : Nat := 16

/-- `WebexHmacMode`. -/
def webexHmacModes : List Text := ["shared_db".toList, "pinned".toList, "disabled".toList]

/-- The field `hmac_secret`. -/
def hmacSecret : ModelField Value where
  name := "hmac_secret".toList
  read
    | .none => some .none
    | given => resolvedSecret runtime given
  default := some .none

/-- The fields of a Webex bot with the checks of the base model. -/
def webexChatBotModel : ConfigModel Value where
  fields := baseChatBotFields runtime ++
    [requiredSecret runtime "token",
      literalField "hmac_mode" webexHmacModes (some (.text "shared_db".toList)),
      hmacSecret runtime,
      floatAtLeast runtime "webhook_hmac_cache_refresh_seconds" 0
        (some (.float (.finite 30))),
      floatAtLeast runtime "webhook_probe_interval_seconds" 1
        (some (.float (.finite 3600)))]
  accepts := consistentAlertSettings

/-- The table with another value for a name. -/
def setEntry (name : String) (value : Value) (table : Table) : Table :=
  (name.toList, value) :: table

/-- `_classify_hmac`. -/
def classifyHmac (table : Table) : Table :=
  match table.lookup "hmac_mode".toList with
  | some _ => table
  | none =>
    match table.lookup "hmac_secret".toList with
    | none => setEntry "hmac_mode" (.text "shared_db".toList) table
    | some .none =>
      setEntry "hmac_mode" (.text "disabled".toList) (setEntry "hmac_secret" .none table)
    | some given =>
      if strip (pyStr runtime.valueText given) = [] then
        setEntry "hmac_mode" (.text "disabled".toList) (setEntry "hmac_secret" .none table)
      else setEntry "hmac_mode" (.text "pinned".toList) table

/-- `_validate_hmac`, `none` where it raises. -/
def validateHmac (config : Table) : Option Table :=
  if settingIs config "hmac_mode" "pinned" then
    match config.lookup "hmac_secret".toList with
    | some (.secret s) => if (strip s).length < minHmacSecretChars then none else some config
    | _ => none
  else some (config.map fun entry =>
    if entry.1 = "hmac_secret".toList then (entry.1, .none) else entry)

/-- `WebexChatBotConfig(**table)`. -/
def webexChatBotConfig (table : Table) : Option Table :=
  ((webexChatBotModel runtime).validateIgnoring (classifyHmac runtime table)).bind validateHmac

variable {runtime} {table config : Table}

/-- The name that was set has its new value. -/
theorem lookup_setEntry_self (name : String) (value : Value) (table : Table) :
    (setEntry name value table).lookup name.toList = some value := List.lookup_cons_self

/-- Every other name has the value it had. -/
theorem lookup_setEntry_other {name : Text} {other : String} (apart : name ≠ other.toList)
    (value : Value) (table : Table) :
    (setEntry other value table).lookup name = table.lookup name := by
  rw [setEntry, List.lookup_cons, beq_eq_false_iff_ne.mpr apart]

/-- A secret that is given without a mode is pinned, unless it is blank; a blank one is dropped and
the webhooks are unsigned. -/
theorem classifyHmac_given {given : Value} (noMode : table.lookup "hmac_mode".toList = none)
    (isSecret : table.lookup "hmac_secret".toList = some given) (isGiven : given ≠ .none) :
    classifyHmac runtime table = if strip (pyStr runtime.valueText given) = [] then
      setEntry "hmac_mode" (.text "disabled".toList) (setEntry "hmac_secret" .none table)
    else setEntry "hmac_mode" (.text "pinned".toList) table := by
  rw [classifyHmac, noMode, isSecret]
  cases given with
  | none => exact absurd rfl isGiven
  | _ => rfl

/-- The table gives no secret: it is null or its `str` is blank. -/
def GivesNoSecret (runtime : Runtime) (table : Table) : Prop :=
  ∃ given, table.lookup "hmac_secret".toList = some given ∧
    (given = .none ∨ strip (pyStr runtime.valueText given) = [])

/-- Before the fields are read the mode is `disabled` only where the table says so or gives no
secret. -/
theorem classifyHmac_disabled
    (isDisabled : (classifyHmac runtime table).lookup "hmac_mode".toList =
      some (.text "disabled".toList)) :
    table.lookup "hmac_mode".toList = some (.text "disabled".toList) ∨
      GivesNoSecret runtime table := by
  unfold classifyHmac at isDisabled
  split at isDisabled
  · exact Or.inl isDisabled
  · split at isDisabled
    · simp [setEntry] at isDisabled
    · rename_i isGiven
      exact Or.inr ⟨.none, isGiven, Or.inl rfl⟩
    · rename_i given _ isGiven
      split at isDisabled
      · rename_i blank
        exact Or.inr ⟨given, isGiven, Or.inr blank⟩
      · simp [setEntry] at isDisabled

/-- Before the fields are read there is a mode, so the default of the field is never used. -/
theorem classifyHmac_mode (runtime : Runtime) (table : Table) :
    ((classifyHmac runtime table).lookup "hmac_mode".toList).isSome = true := by
  unfold classifyHmac
  split
  · rename_i mode isGiven
    rw [isGiven, Option.isSome_some]
  · split
    · simp [setEntry]
    · simp [setEntry]
    · split <;> simp [setEntry]

/-- A name that the last validator does not touch keeps its value. -/
theorem lookup_dropped {name : Text} (other : name ≠ "hmac_secret".toList) :
    (config.map fun entry =>
      if entry.1 = "hmac_secret".toList then (entry.1, Value.none) else entry).lookup name =
        config.lookup name := by
  induction config with
  | nil => rfl
  | cons entry config inductionHypothesis =>
    rw [List.map_cons, List.lookup_cons, List.lookup_cons, inductionHypothesis]
    by_cases own : entry.1 = "hmac_secret".toList
    · have apart : (name == entry.1) = false := by
        rw [own]
        exact beq_eq_false_iff_ne.mpr other
      rw [if_pos own, apart]
    · rw [if_neg own]

/-- After the fields are read every setting but the secret stays as it is. -/
theorem validateHmac_lookup {validated : Table} {name : Text}
    (other : name ≠ "hmac_secret".toList) (accepted : validateHmac config = some validated) :
    validated.lookup name = config.lookup name := by
  unfold validateHmac at accepted
  split at accepted
  · split at accepted
    · split at accepted
      · simp at accepted
      · rw [Option.some.inj accepted]
    · simp at accepted
  · rw [← Option.some.inj accepted]
    exact lookup_dropped other

/-- The fields of a bot have different names. -/
theorem webexChatBotModel_names (runtime : Runtime) :
    ((webexChatBotModel runtime).fields.map ModelField.name).Nodup := by
  change (["handle", "endpoint", "high_pri_on", "send_alerts", "responders",
    "room_title_template", "customer_service_message_template", "incident_prompt_card_template",
    "incident_prompt_card_template_path", "display_name", "phone_number",
    "card_extra_text_template", "alert_type", "team_description", "emergency_warning_message",
    "token", "hmac_mode", "hmac_secret", "webhook_hmac_cache_refresh_seconds",
    "webhook_probe_interval_seconds"].map String.toList).Nodup
  decide +kernel

/-- A literal field admits its options and nothing else. -/
theorem literal_admits {options : List Text} {given : Value}
    (admitted : (FieldType.literal options).admits given = true) :
    ∃ s, given = .text s ∧ s ∈ options := by
  cases given with
  | text s => exact ⟨s, rfl, List.contains_iff_mem.mp admitted⟩
  | _ => simp [FieldType.admits] at admitted

/-- The mode that is read is one of the three, and what the validator before the fields made of the
table. -/
theorem readFields_mode {read : Table}
    (isRead : readFields (classifyHmac runtime table) (webexChatBotModel runtime).fields =
      some read) :
    ∃ mode ∈ webexHmacModes, read.lookup "hmac_mode".toList = some (.text mode) ∧
      (classifyHmac runtime table).lookup "hmac_mode".toList = some (.text mode) := by
  have listed : literalField "hmac_mode" webexHmacModes (some (.text "shared_db".toList)) ∈
      (webexChatBotModel runtime).fields := by simp [webexChatBotModel]
  have found : read.lookup "hmac_mode".toList = _ :=
    readFields_lookup isRead (webexChatBotModel_names runtime) listed
  obtain ⟨given, isGiven⟩ := Option.isSome_iff_exists.mp (classifyHmac_mode runtime table)
  have isKept : (literalField "hmac_mode" webexHmacModes (some (.text "shared_db".toList))).value
      (classifyHmac runtime table) =
        if (FieldType.literal webexHmacModes).admits given then some given else none :=
    ModelField.value_given isGiven
  obtain ⟨value, isValue, _⟩ := readFields_listed isRead listed
  rw [isValue] at found
  rw [isKept] at isValue
  split at isValue
  · rename_i admitted
    obtain rfl := Option.some.inj isValue
    obtain ⟨mode, rfl, isOption⟩ := literal_admits admitted
    exact ⟨mode, isOption, found, isGiven⟩
  · simp at isValue

/-- So is the mode of a validated bot, which the last validator leaves as it was read. -/
theorem webexChatBotConfig_mode (validated : webexChatBotConfig runtime table = some config) :
    ∃ mode ∈ webexHmacModes, config.lookup "hmac_mode".toList = some (.text mode) ∧
      (classifyHmac runtime table).lookup "hmac_mode".toList = some (.text mode) := by
  obtain ⟨read, isRead, accepted⟩ := Option.bind_eq_some_iff.mp validated
  obtain ⟨mode, isOption, found, isGiven⟩ :=
    readFields_mode (Option.filter_eq_some_iff.mp isRead).1
  exact ⟨mode, isOption, (validateHmac_lookup (by decide) accepted).trans found, isGiven⟩

/-- Bot webhooks are unsigned only where the table says so or gives no secret. A secret that is
given is never dropped for another reason. -/
theorem disabled_said (validated : webexChatBotConfig runtime table = some config)
    (isDisabled : settingIs config "hmac_mode" "disabled" = true) :
    table.lookup "hmac_mode".toList = some (.text "disabled".toList) ∨
      GivesNoSecret runtime table := by
  obtain ⟨mode, _, isMode, isClassified⟩ := webexChatBotConfig_mode validated
  rw [settingIs, isMode] at isDisabled
  have isDisabled : mode = "disabled".toList := of_decide_eq_true isDisabled
  rw [isDisabled] at isClassified
  exact classifyHmac_disabled isClassified

/-- A pinned secret is long enough, once the blanks around it are taken off. -/
theorem pinned_long (validated : webexChatBotConfig runtime table = some config)
    (isPinned : settingIs config "hmac_mode" "pinned" = true) :
    ∃ s, config.lookup "hmac_secret".toList = some (.secret s) ∧
      minHmacSecretChars ≤ (strip s).length := by
  obtain ⟨read, _, accepted⟩ := Option.bind_eq_some_iff.mp validated
  have sameMode : config.lookup "hmac_mode".toList = read.lookup "hmac_mode".toList :=
    validateHmac_lookup (by decide) accepted
  have readPinned : settingIs read "hmac_mode" "pinned" = true := by
    rw [settingIs, ← sameMode]
    exact isPinned
  rw [validateHmac, if_pos readPinned] at accepted
  split at accepted
  · rename_i s isSecret
    split at accepted
    · simp at accepted
    · rename_i long
      rw [← Option.some.inj accepted]
      exact ⟨s, isSecret, Nat.le_of_not_lt long⟩
  · simp at accepted

end Thaum.Settings
