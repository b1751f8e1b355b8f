import Thaum.Settings.SchemaLookup

/-!
# The bots without their secrets

The validators of a Webex bot look into a pinned secret, which has to be long enough; without
the secrets they look into the reference. Everything else that a bot row and its alert table
hold is accepted as before.
-/

namespace Thaum.Settings

open PyText PyModels

section Bots

variable {runtime : Runtime} {table config config' row : Table} {name : Text}

/-- The bot pins its secret: it says so, or it gives one and says nothing of a mode. -/
def IsPinned (runtime : Runtime) (row : Table) : Prop :=
  row.lookup "hmac_mode".toList = some (.text "pinned".toList) ∨
    row.lookup "hmac_mode".toList = none ∧ ∃ given, row.lookup "hmac_secret".toList = some given ∧
      given ≠ .none ∧ strip (pyStr runtime.valueText given) ≠ []

/-- A pinned secret is given by a text that is long enough itself. -/
def PinnedIsLong (runtime : Runtime) (row : Table) : Prop :=
  IsPinned runtime row → ∀ given, row.lookup "hmac_secret".toList = some given →
    minHmacSecretChars ≤ (strip (pyStr runtime.valueText given)).length

/-- The alert type of a row. -/
def alertType (runtime : Runtime) (row : Table) : Option Text :=
  asText ((scalar runtime "alert_type" .str (some (.text "null".toList))).value row)

/-- A bounded number is read the same in both modes. -/
theorem floatAtLeast_follows {name : String} (plain : name.toList ∉ secretNames)
    (runtime : Runtime) (bound : Int) (default : Option Value) : Follows Near
      (floatAtLeast runtime name bound default)
      (floatAtLeast runtime.schemaOnly name bound default) :=
  Follows.self (Near.same plain)

/-- A field that is one of some texts is read the same in both modes. -/
theorem literalField_follows {name : String} (plain : name.toList ∉ secretNames)
    (options : List Text) (default : Option Value) : Follows Near
      (literalField name options default) (literalField name options default) :=
  Follows.self (Near.same plain)

/-- Each field of a bot accepts without the secrets what it accepts with them. -/
theorem webexChatBot_follows (runtime : Runtime) : List.Forall₂ (Follows Near)
    (webexChatBotModel runtime).fields (webexChatBotModel runtime.schemaOnly).fields := by
  simp only [webexChatBotModel, baseChatBotFields, List.cons_append, List.nil_append,
    List.forall₂_cons, List.Forall₂.nil, and_true]
  repeat' apply And.intro
  all_goals first
    | exact scalar_follows (by decide) runtime _ _
    | exact requiredSecret_follows runtime _
    | exact hmacSecret_follows runtime
    | exact resolvedStringList_follows (by decide)
    | exact literalField_follows (by decide) _ _
    | exact floatAtLeast_follows (by decide) runtime _ _

/-- The validator before the fields resolves nothing, so it does the same in both modes. -/
theorem classifyHmac_schemaOnly (runtime : Runtime) (table : Table) :
    classifyHmac runtime.schemaOnly table = classifyHmac runtime table := by
  rw [classifyHmac, classifyHmac, schemaOnly_valueText]

/-- A table whose mode is set to another one does not pin its secret. -/
theorem setEntry_notPinned {mode : Text} (other : mode ≠ "pinned".toList) (table : Table) :
    (setEntry "hmac_mode" (.text mode) table).lookup "hmac_mode".toList ≠
      some (.text "pinned".toList) := by
  intro isPinned
  rw [lookup_setEntry_self] at isPinned
  exact other (Value.text.inj (Option.some.inj isPinned))

/-- The validator before the fields says that the secret is pinned where it is, whether the table
says so itself or only gives a secret. -/
theorem classifyHmac_pinned_iff :
    (classifyHmac runtime table).lookup "hmac_mode".toList = some (.text "pinned".toList) ↔
      IsPinned runtime table := by
  rw [IsPinned]
  cases isMode : table.lookup "hmac_mode".toList with
  | some mode =>
    rw [classifyHmac, isMode]
    simp only [isMode, reduceCtorEq, false_and, or_false]
  | none =>
    simp only [reduceCtorEq, false_or, true_and]
    cases isSecret : table.lookup "hmac_secret".toList with
    | none =>
      rw [classifyHmac, isMode, isSecret]
      apply iff_of_false (setEntry_notPinned (by decide) _)
      rintro ⟨given, isGiven, _⟩
      cases isGiven
    | some given =>
      simp only [Option.some.injEq, exists_eq_left']
      by_cases isGiven : given = .none
      · rw [isGiven] at isSecret ⊢
        rw [classifyHmac, isMode, isSecret]
        apply iff_of_false (setEntry_notPinned (by decide) _)
        rintro ⟨isGiven, _⟩
        exact isGiven rfl
      · rw [classifyHmac_given isMode isSecret isGiven]
        split
        next blank =>
          apply iff_of_false (setEntry_notPinned (by decide) _)
          rintro ⟨_, nonBlank⟩
          exact nonBlank blank
        next nonBlank => exact iff_of_true (lookup_setEntry_self _ _ _) ⟨isGiven, nonBlank⟩

/-- The validator before the fields keeps a pinned secret. -/
theorem classifyHmac_kept (isPinned : IsPinned runtime table) :
    (classifyHmac runtime table).lookup "hmac_secret".toList =
      table.lookup "hmac_secret".toList := by
  rcases isPinned with isMode | ⟨noMode, given, isSecret, isGiven, nonBlank⟩
  · rw [classifyHmac, isMode]
  · rw [classifyHmac_given noMode isSecret isGiven, if_neg nonBlank]
    exact lookup_setEntry_other (by decide) _ _

/-- A bot is validated where its fields are read, its alert settings are consistent and its secret
is accepted. -/
theorem webexChatBotConfig_some : webexChatBotConfig runtime table = some config ↔
    ∃ read, readFields (classifyHmac runtime table) (webexChatBotModel runtime).fields =
      some read ∧ consistentAlertSettings read = true ∧ validateHmac read = some config := by
  rw [webexChatBotConfig, ConfigModel.validateIgnoring, Option.bind_eq_some_iff]
  constructor
  · rintro ⟨read, isRead, accepted⟩
    obtain ⟨isRead, consistent⟩ := Option.filter_eq_some_iff.mp isRead
    exact ⟨read, isRead, consistent, accepted⟩
  · rintro ⟨read, isRead, consistent, accepted⟩
    exact ⟨read, Option.filter_eq_some_iff.mpr ⟨isRead, consistent⟩, accepted⟩

/-- The settings of a bot are read without the secrets; what the checks after them look at is the
same, but for the secret. -/
theorem webexChatBot_read {read : Table}
    (isRead : readFields (classifyHmac runtime table) (webexChatBotModel runtime).fields =
      some read) :
    ∃ read', readFields (classifyHmac runtime.schemaOnly table)
        (webexChatBotModel runtime.schemaOnly).fields = some read' ∧
      ∀ name ∈ ["high_pri_on", "send_alerts", "alert_type", "hmac_mode"],
        read'.lookup name.toList = read.lookup name.toList := by
  have agree := agree_refl (classifyHmac runtime table)
  obtain ⟨read', isRead'⟩ := Option.isSome_iff_exists.mp (readFields_follows agree
    (fun field' listed => Or.inl (forall₂_follows (webexChatBot_follows runtime) field' listed))
    (Option.isSome_of_mem isRead))
  refine ⟨read', ?_, ?_⟩
  · rw [classifyHmac_schemaOnly]
    exact isRead'
  have same (name : String) (field : ModelField Value) (isName : field.name = name.toList) :=
    setting_same name field isName agree isRead isRead' (webexChatBotModel_names runtime)
      (webexChatBotModel_names runtime.schemaOnly)
  intro name listed
  simp only [List.mem_cons, List.not_mem_nil, or_false] at listed
  rcases listed with rfl | rfl | rfl | rfl
  · exact same _ (scalar runtime "high_pri_on" (.optional .bool) (some (.bool true))) rfl
      (by simp [webexChatBotModel, baseChatBotFields])
      (by simp [webexChatBotModel, baseChatBotFields]) (by decide)
  · exact same _ (scalar runtime "send_alerts" (.optional .bool) (some (.bool true))) rfl
      (by simp [webexChatBotModel, baseChatBotFields])
      (by simp [webexChatBotModel, baseChatBotFields]) (by decide)
  · exact same _ (scalar runtime "alert_type" .str (some (.text "null".toList))) rfl
      (by simp [webexChatBotModel, baseChatBotFields])
      (by simp [webexChatBotModel, baseChatBotFields]) (by decide)
  · exact same _ (literalField "hmac_mode" webexHmacModes (some (.text "shared_db".toList))) rfl
      (by simp [webexChatBotModel]) (by simp [webexChatBotModel]) (by decide)

/-- The check of the alert settings looks at those settings only. -/
theorem consistentAlertSettings_same
    (same : ∀ name ∈ ["high_pri_on", "send_alerts", "alert_type", "hmac_mode"],
      config'.lookup name.toList = config.lookup name.toList) :
    consistentAlertSettings config' = consistentAlertSettings config := by
  have sameSet {name : String} (same : config'.lookup name.toList = config.lookup name.toList) :
      isSet config' name = isSet config name := by
    rw [isSet, isSet, same]
  have sameText : settingIs config' "alert_type" "null" = settingIs config "alert_type" "null" := by
    rw [settingIs, settingIs, same "alert_type" (by decide)]
  rw [consistentAlertSettings, consistentAlertSettings, sameText,
    sameSet (same "send_alerts" (by decide)), sameSet (same "high_pri_on" (by decide))]

/-- The mode that was read is that of a pinned secret where the table pins one. -/
theorem settingIs_pinned_iff {read : Table}
    (isRead : readFields (classifyHmac runtime table) (webexChatBotModel runtime).fields =
      some read) :
    settingIs read "hmac_mode" "pinned" = true ↔ IsPinned runtime table := by
  obtain ⟨mode, _, found, isGiven⟩ := readFields_mode isRead
  rw [settingIs, found, ← classifyHmac_pinned_iff, isGiven]
  simp only [decide_eq_true_eq, Option.some.injEq, Value.text.injEq]

/-- A pinned secret that was read is the text that it was given by, without the secrets. So the
check of its length then sees the reference. -/
theorem hmacSecret_reference {s : Text} (isPinned : IsPinned runtime table)
    (isValue : (hmacSecret runtime).value (classifyHmac runtime table) = some (.secret s)) :
    ∃ given, table.lookup "hmac_secret".toList = some given ∧
      (hmacSecret runtime.schemaOnly).value (classifyHmac runtime.schemaOnly table) =
        some (.secret (pyStr runtime.valueText given)) := by
  have kept := classifyHmac_kept isPinned
  cases isGiven : table.lookup "hmac_secret".toList with
  | none =>
    rw [isGiven] at kept
    have absent : (hmacSecret runtime).value (classifyHmac runtime table) = some .none :=
      ModelField.value_absent kept
    rw [absent] at isValue
    exact absurd (Option.some.inj isValue) Value.noConfusion
  | some given =>
    rw [isGiven] at kept
    have read : (hmacSecret runtime).value (classifyHmac runtime table) =
        (hmacSecret runtime).read given := ModelField.value_given kept
    have reference : (hmacSecret runtime.schemaOnly).value (classifyHmac runtime table) =
        (hmacSecret runtime.schemaOnly).read given := ModelField.value_given kept
    refine ⟨given, rfl, ?_⟩
    rw [classifyHmac_schemaOnly, reference]
    cases given with
    | none =>
      rw [read] at isValue
      exact absurd (Option.some.inj isValue) Value.noConfusion
    | _ => rfl

/-- A bot that is validated with its secrets is validated without them exactly if its pinned secret
is given by a text that is long enough. -/
theorem webexChatBot_schemaOnly_iff
    (passes : (webexChatBotConfig runtime table).isSome = true) :
    (webexChatBotConfig runtime.schemaOnly table).isSome = true ↔ PinnedIsLong runtime table := by
  obtain ⟨config, validated⟩ := Option.isSome_iff_exists.mp passes
  obtain ⟨read, isRead, consistent, accepted⟩ := webexChatBotConfig_some.mp validated
  obtain ⟨read', isRead', same⟩ := webexChatBot_read isRead
  rw [← consistentAlertSettings_same same] at consistent
  have checked : webexChatBotConfig runtime.schemaOnly table = validateHmac read' := by
    apply Option.ext
    intro config'
    rw [webexChatBotConfig_some]
    constructor
    · rintro ⟨other, isOther, _, accepted⟩
      obtain rfl := Option.some.inj (isRead'.symm.trans isOther)
      exact accepted
    · intro accepted
      exact ⟨read', isRead', consistent, accepted⟩
  have sameMode : settingIs read' "hmac_mode" "pinned" = settingIs read "hmac_mode" "pinned" := by
    rw [settingIs, settingIs, same "hmac_mode" (by decide)]
  rw [checked, validateHmac, sameMode, PinnedIsLong]
  cases isPinned : settingIs read "hmac_mode" "pinned" with
  | false =>
    rw [if_neg Bool.false_ne_true]
    refine iff_of_true rfl fun pins => ?_
    rw [← settingIs_pinned_iff isRead, isPinned] at pins
    cases pins
  | true =>
    have pins := (settingIs_pinned_iff isRead).mp isPinned
    rw [validateHmac, if_pos isPinned] at accepted
    have listed (runtime : Runtime) : hmacSecret runtime ∈ (webexChatBotModel runtime).fields := by
      simp [webexChatBotModel]
    have bound : read.lookup "hmac_secret".toList =
        (hmacSecret runtime).value (classifyHmac runtime table) :=
      readFields_lookup isRead (webexChatBotModel_names runtime) (listed runtime)
    have bound' : read'.lookup "hmac_secret".toList =
        (hmacSecret runtime.schemaOnly).value (classifyHmac runtime.schemaOnly table) :=
      readFields_lookup isRead' (webexChatBotModel_names runtime.schemaOnly)
        (listed runtime.schemaOnly)
    split at accepted
    next s isSecret =>
      obtain ⟨given, isGiven, reference⟩ := hmacSecret_reference pins (bound.symm.trans isSecret)
      rw [if_pos rfl, bound', reference]
      simp only [isGiven, Option.some.injEq, forall_eq', pins, forall_const]
      split
      next short => exact iff_of_false Bool.false_ne_true (Nat.not_le_of_lt short)
      next long => exact iff_of_true rfl (Nat.le_of_not_lt long)
    next => cases accepted

/-- The validator before the fields touches no setting but the mode and the secret. -/
theorem lookup_classifyHmac (notMode : name ≠ "hmac_mode".toList)
    (notSecret : name ≠ "hmac_secret".toList) :
    (classifyHmac runtime table).lookup name = table.lookup name := by
  unfold classifyHmac
  split
  · rfl
  · split
    · exact lookup_setEntry_other notMode _ _
    · rw [lookup_setEntry_other notMode, lookup_setEntry_other notSecret]
    · split
      · rw [lookup_setEntry_other notMode, lookup_setEntry_other notSecret]
      · exact lookup_setEntry_other notMode _ _

/-- The validated alert type is that of the row. -/
theorem webexChatBot_alertType (validated : webexChatBotConfig runtime table = some config) :
    textSetting config "alert_type" = alertType runtime table := by
  obtain ⟨read, isRead, _, accepted⟩ := webexChatBotConfig_some.mp validated
  have listed : scalar runtime "alert_type" .str (some (.text "null".toList)) ∈
      (webexChatBotModel runtime).fields := by simp [webexChatBotModel, baseChatBotFields]
  have untouched := @lookup_classifyHmac runtime table "alert_type".toList
  have value : config.lookup "alert_type".toList =
      (scalar runtime "alert_type" .str (some (.text "null".toList))).value table :=
    calc config.lookup "alert_type".toList
        = read.lookup "alert_type".toList := validateHmac_lookup (by decide) accepted
      _ = (scalar runtime "alert_type" .str (some (.text "null".toList))).value
            (classifyHmac runtime table) :=
          readFields_lookup isRead (webexChatBotModel_names runtime) listed
      _ = (scalar runtime "alert_type" .str (some (.text "null".toList))).value table :=
          ModelField.value_congr (untouched (by decide) (by decide))
  rw [textSetting, alertType, value]

/-- What is looked up in a validated bot is the same in both modes. -/
theorem webexChatBot_same (validated : webexChatBotConfig runtime table = some config)
    (validated' : webexChatBotConfig runtime.schemaOnly table = some config') :
    ∀ name ∈ ["high_pri_on", "send_alerts", "alert_type", "hmac_mode"],
      config'.lookup name.toList = config.lookup name.toList := by
  obtain ⟨read, isRead, _, accepted⟩ := webexChatBotConfig_some.mp validated
  obtain ⟨read', isRead', same⟩ := webexChatBot_read isRead
  obtain ⟨other, isOther, _, accepted'⟩ := webexChatBotConfig_some.mp validated'
  obtain rfl := Option.some.inj (isRead'.symm.trans isOther)
  intro name listed
  have notSecret : name.toList ≠ "hmac_secret".toList := by
    rintro isSecret
    rw [String.toList_inj.mp isSecret] at listed
    exact absurd listed (by decide)
  rw [validateHmac_lookup notSecret accepted, validateHmac_lookup notSecret accepted']
  exact same name listed

/-- The row of a bot but for its endpoint and its tables. -/
theorem lookup_cleanRow {server : Table} {botKey : Text} (isSetting : name ∉ runtimeKeys)
    (other : name ≠ "endpoint".toList) :
    (cleanRow server botKey row).lookup name = row.lookup name := by
  rw [cleanRow, List.lookup_append, lookup_filter fun key => !runtimeKeys.contains key]
  have kept : (!runtimeKeys.contains name) = true := by
    rw [Bool.not_eq_true', ← Bool.not_eq_true, List.contains_iff_mem]
    exact isSetting
  rw [if_pos kept, List.lookup_cons, beq_eq_false_iff_ne.mpr other]
  exact Option.or_none

/-- A bot row is validated without its secrets exactly if its pinned secret is given by a text that
is long enough. Cleaning the row leaves the secret as it is. -/
theorem validateBotConfig_schemaOnly_iff {server : Table} {botKey : Text}
    (passes : (validateBotConfig runtime server botKey row).isSome = true) :
    (validateBotConfig runtime.schemaOnly server botKey row).isSome = true ↔
      PinnedIsLong runtime row := by
  apply (webexChatBot_schemaOnly_iff passes).trans
  have mode : (cleanRow server botKey row).lookup "hmac_mode".toList =
      row.lookup "hmac_mode".toList := lookup_cleanRow (by decide) (by decide)
  have secret : (cleanRow server botKey row).lookup "hmac_secret".toList =
      row.lookup "hmac_secret".toList := lookup_cleanRow (by decide) (by decide)
  rw [PinnedIsLong, PinnedIsLong, IsPinned, IsPinned, mode, secret]

end Bots

section Alerts

variable {runtime : Runtime} {table raw server server' row : Table} {name botKey : Text}
  {rows : List (Text × Table)} {bots bots' : List ValidatedBot} {bot bot' : ValidatedBot}

/-- Each field of an alert plugin accepts without the secrets what it accepts with them. -/
theorem alert_follows (runtime : Runtime) (plugin : AlertType) : List.Forall₂ (Follows Near)
    (plugin.configModel runtime).fields (plugin.configModel runtime.schemaOnly).fields := by
  cases plugin with
  | null =>
    simp only [AlertType.configModel, nullAlertModel, baseAlertFields, List.forall₂_cons,
      List.Forall₂.nil, and_true]
    exact ⟨scalar_follows (by decide) runtime _ _, scalar_follows (by decide) runtime _ _⟩
  | jira =>
    simp only [AlertType.configModel, jiraAlertModel, baseAlertFields, List.cons_append,
      List.nil_append, List.forall₂_cons, List.Forall₂.nil, and_true]
    repeat' apply And.intro
    all_goals first
      | exact scalar_follows (by decide) runtime _ _
      | exact requiredOptionalSecret_follows runtime _
      | exact requiredSecret_follows runtime _
      | exact resolvedStringList_follows (by decide)

/-- The models of the alert plugins have no check after their fields. -/
theorem alert_accepts (runtime : Runtime) (plugin : AlertType) (config : Table) :
    (plugin.configModel runtime).accepts config = true := by
  cases plugin <;> rfl

/-- An alert table that is validated with its secrets is validated without them exactly if the site
URL of its connection is given as a URL. It has no site URL of its own. -/
theorem validateAlert_schemaOnly_iff
    (passes : (validateAlert runtime raw row name).isSome = true) :
    (validateAlert runtime.schemaOnly raw row name).isSome = true ↔
      ConnectionIsUrl runtime raw (mergedAlert raw row name) := by
  constructor
  · intro passes'
    obtain ⟨alert', validated'⟩ := Option.isSome_iff_exists.mp passes'
    obtain ⟨table', merged', _⟩ := Option.bind_eq_some_iff.mp validated'
    exact merge_isUrl merged'
  · intro isUrl
    obtain ⟨alert, validated⟩ := Option.isSome_iff_exists.mp passes
    obtain ⟨table, merged, validated⟩ := Option.bind_eq_some_iff.mp validated
    obtain ⟨plugin, isPlugin, validated⟩ := Option.bind_eq_some_iff.mp validated
    obtain ⟨table', merged', agree, _⟩ := merge_agree isUrl merged
    have isRead := Option.isSome_of_mem validated
    rw [validateKeeping_isSome (alert_accepts runtime plugin)] at isRead
    rw [validateAlert, merged', Option.bind_some, isPlugin, Option.bind_some,
      validateKeeping_isSome (alert_accepts runtime.schemaOnly plugin)]
    exact readFields_follows agree
      (fun field' listed => Or.inl (forall₂_follows (alert_follows runtime plugin) field' listed))
      isRead

/-- Cleaning a row leaves its alert type. -/
theorem alertType_cleanRow : alertType runtime (cleanRow server botKey row) =
    alertType runtime row := by
  have same : (cleanRow server botKey row).lookup "alert_type".toList =
      row.lookup "alert_type".toList := lookup_cleanRow (by decide) (by decide)
  have value : (scalar runtime "alert_type" .str (some (.text "null".toList))).value
      (cleanRow server botKey row) =
        (scalar runtime "alert_type" .str (some (.text "null".toList))).value row :=
    ModelField.value_congr same
  rw [alertType, alertType, value]

/-- What a bot row gives that is looked into without the secrets. -/
def BotReadable (runtime : Runtime) (raw row : Table) : Prop :=
  PinnedIsLong runtime row ∧ ∀ name, alertType runtime row = some name →
    ConnectionIsUrl runtime raw (mergedAlert raw row name)

/-- A bot is validated with its alert table, that of the row's alert type. -/
theorem validateBot_isSome (isType : alertType runtime row = some name) :
    (validateBot runtime raw server botKey row).isSome = true ↔
      (validateBotConfig runtime server botKey row).isSome = true ∧
        (validateAlert runtime raw row name).isSome = true := by
  rw [validateBot]
  cases isBot : validateBotConfig runtime server botKey row with
  | none => simp
  | some config =>
    have said : textSetting config "alert_type" = some name := by
      rw [webexChatBot_alertType isBot, alertType_cleanRow, isType]
    rw [Option.bind_some, said, Option.getD_some, Option.isSome_map]
    simp

/-- A bot that is validated has an alert type. -/
theorem validateBot_alertType (passes : (validateBot runtime raw server botKey row).isSome = true) :
    ∃ name, alertType runtime row = some name := by
  obtain ⟨bot, validated⟩ := Option.isSome_iff_exists.mp passes
  obtain ⟨config, isBot, validated⟩ := Option.bind_eq_some_iff.mp validated
  obtain ⟨alert, isAlert, _⟩ := Option.map_eq_some_iff.mp validated
  have isType : textSetting config "alert_type" = alertType runtime row :=
    (webexChatBot_alertType isBot).trans alertType_cleanRow
  rw [← Option.isSome_iff_exists, ← isType]
  cases said : textSetting config "alert_type" with
  | some name => rfl
  | none =>
    rw [said] at isAlert
    obtain ⟨_, _, validated⟩ := Option.bind_eq_some_iff.mp isAlert
    obtain ⟨plugin, isPlugin, _⟩ := Option.bind_eq_some_iff.mp validated
    cases isPlugin

/-- A bot and its alert table are validated without the secrets exactly if what is looked into is
there without them. -/
theorem validateBot_schemaOnly_iff
    (passes : (validateBot runtime raw server botKey row).isSome = true) :
    (validateBot runtime.schemaOnly raw server botKey row).isSome = true ↔
      BotReadable runtime raw row := by
  obtain ⟨name, isType⟩ := validateBot_alertType passes
  obtain ⟨isBot, isAlert⟩ := (validateBot_isSome isType).mp passes
  have isType' : alertType runtime.schemaOnly row = some name := isType
  rw [validateBot_isSome isType', validateBotConfig_schemaOnly_iff isBot,
    validateAlert_schemaOnly_iff isAlert, BotReadable, isType]
  simp only [Option.some.injEq, forall_eq']

/-- The bots are validated without their secrets exactly if each of them is, by induction on the
rows. -/
theorem validateBots_schemaOnly_iff
    (passes : (validateBots runtime raw server rows).isSome = true) :
    (validateBots runtime.schemaOnly raw server rows).isSome = true ↔
      ∀ entry ∈ rows, BotReadable runtime raw entry.2 := by
  have parts (runtime : Runtime) (entry : Text × Table) (rest : List (Text × Table)) :
      (validateBots runtime raw server (entry :: rest)).isSome = true ↔
        (validateBot runtime raw server entry.1 entry.2).isSome = true ∧
          (validateBots runtime raw server rest).isSome = true := by
    rw [validateBots]
    cases validateBot runtime raw server entry.1 entry.2 <;> simp
  induction rows with
  | nil => simp [validateBots]
  | cons entry rows inductionHypothesis =>
    obtain ⟨first, rest⟩ := (parts runtime entry rows).mp passes
    rw [parts, List.forall_mem_cons, validateBot_schemaOnly_iff first]
    exact and_congr_right' (inductionHypothesis rest)

/-- The validated bots say the same of their modes in both modes of the check, so the vault
passphrase is asked for in both or in neither. -/
theorem requiresVaultPassphrase_same (validated : validateBots runtime raw server rows = some bots)
    (validated' : validateBots runtime.schemaOnly raw server rows = some bots') :
    requiresVaultPassphrase bots' = requiresVaultPassphrase bots := by
  induction rows generalizing bots bots' with
  | nil =>
    obtain rfl := Option.some.inj validated
    obtain rfl := Option.some.inj validated'
    rfl
  | cons entry rows inductionHypothesis =>
    obtain ⟨bot, isBot, rest⟩ := Option.bind_eq_some_iff.mp validated
    obtain ⟨bot', isBot', rest'⟩ := Option.bind_eq_some_iff.mp validated'
    obtain ⟨bots, areBots, rfl⟩ := Option.map_eq_some_iff.mp rest
    obtain ⟨bots', areBots', rfl⟩ := Option.map_eq_some_iff.mp rest'
    obtain ⟨config, isConfig, alert⟩ := Option.bind_eq_some_iff.mp isBot
    obtain ⟨config', isConfig', alert'⟩ := Option.bind_eq_some_iff.mp isBot'
    obtain ⟨_, _, rfl⟩ := Option.map_eq_some_iff.mp alert
    obtain ⟨_, _, rfl⟩ := Option.map_eq_some_iff.mp alert'
    have sameMode := webexChatBot_same isConfig isConfig' "hmac_mode" (by decide)
    have sameRest := inductionHypothesis areBots areBots'
    rw [requiresVaultPassphrase, requiresVaultPassphrase] at sameRest
    rw [requiresVaultPassphrase, requiresVaultPassphrase, List.any_cons, List.any_cons, sameRest,
      settingIs, settingIs, sameMode]

/-- Of the server the bots see their endpoints only. -/
theorem validateBots_server
    (same : ∀ botKey, botEndpoint server' botKey = botEndpoint server botKey) :
    validateBots runtime raw server' rows = validateBots runtime raw server rows := by
  induction rows with
  | nil => rfl
  | cons entry rows inductionHypothesis =>
    rw [validateBots, validateBots, validateBot, validateBot, validateBotConfig, validateBotConfig,
      cleanRow, cleanRow, same, inductionHypothesis]

end Alerts

end Thaum.Settings
