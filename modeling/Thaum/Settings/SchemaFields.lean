import Thaum.Library.PyModelModes
import Thaum.Settings.AlertConfig

/-!
# Reading settings without their secrets

Under `schema_only_validation` a reference to a secret stays as it is, and everything else is
read as before: the validators run with a resolver that knows no reference. A setting that
holds a secret is always accepted then. A site URL is the exception, for it has to be one of
`https`, which a reference is not.
-/

namespace Thaum.Settings

open PyText PyUrl PyModels

/-- No reference is known, so every text is given back. -/
def keepReferences : SecretResolver where
  schemes := []
  resolve := some
  solid := by simp
  notHttps := by simp
  plain _ _ := rfl

/-- The runtime under `schema_only_validation`. -/
def Runtime.schemaOnly (runtime : Runtime) : Runtime := { runtime with resolver := keepReferences }

/-- Values have the same `str` in both modes. -/
@[simp] theorem schemaOnly_valueText (runtime : Runtime) :
    runtime.schemaOnly.valueText = runtime.valueText := rfl

/-- Without the secrets every text is given back. -/
@[simp] theorem schemaOnly_resolve (runtime : Runtime) (s : Text) :
    runtime.schemaOnly.resolve s = some s := rfl

/-- URLs are parsed the same in both modes. -/
@[simp] theorem schemaOnly_netlocAllowed (runtime : Runtime) :
    runtime.schemaOnly.netlocAllowed = runtime.netlocAllowed := rfl

section Source

variable (runtime : Runtime) (schemaOnly : Bool)

/-- `_resolved_secret_before` with both of its branches. -/
def resolvedSecretBefore (given : Value) : Option Value :=
  if schemaOnly then some (.secret (pyStr runtime.valueText given))
  else (runtime.resolve (pyStr runtime.valueText given)).map .secret

/-- `_optional_resolved_secret` with both of its branches. -/
def optionalResolvedSecretBefore : Value → Option Value
  | .none => some .none
  | given =>
    let s := strip (pyStr runtime.valueText given)
    if s = [] then some .none
    else if schemaOnly then some (.text s)
    else (runtime.resolve s).map .text

/-- `_resolved_list_entry` with both of its branches. -/
def resolvedListEntryBefore (given : Value) : Option Value :=
  let s := strip (pyStr runtime.valueText given)
  if s = [] then some (.text [])
  else if schemaOnly then some (.text s)
  else (runtime.resolve s).map .text

/-- The validators take their branch with the resolver of the mode, so the flag of the code is one
choice of resolver here. -/
theorem validators_branch :
    resolvedSecretBefore runtime schemaOnly =
        resolvedSecret (if schemaOnly then runtime.schemaOnly else runtime) ∧
      optionalResolvedSecretBefore runtime schemaOnly =
        optionalResolvedSecret (if schemaOnly then runtime.schemaOnly else runtime) ∧
      resolvedListEntryBefore runtime schemaOnly =
        resolvedListEntry (if schemaOnly then runtime.schemaOnly else runtime) := by
  refine ⟨?_, ?_, ?_⟩
  · funext given
    cases schemaOnly <;> rfl
  · funext given
    cases given <;> cases schemaOnly <;> rfl
  · funext given
    cases schemaOnly <;> rfl

end Source

section Fields

variable {runtime : Runtime} {table : Table} {name : Text} {given given' : Value}

/-- The names of the secrets that a connection can hold. -/
def secretNames : List Text := atlassianSecrets.map String.toList

/-- A value as it stands in the two modes: the same, or a secret and its reference. -/
def Near (name : Text) (given given' : Value) : Prop :=
  given' = given ∨ name ∈ secretNames ∧ ∃ s t, given = .text s ∧ given' = .text t ∧ strip t ≠ []

/-- A setting that is no secret of a connection is near itself only. -/
theorem Near.same (plain : name ∉ secretNames) :
    ∀ given given', Near name given given' → given' = given := by
  rintro given given' (same | ⟨isSecret, _⟩)
  · exact same
  · exact absurd isSecret plain

/-- A table agrees with itself. -/
theorem agree_refl (table : Table) : Agree Near table table := by
  apply Agree.refl
  intro _ _
  exact Or.inl rfl

/-- A setting that is no secret is the same in both modes, once it is a field of both models. -/
theorem setting_same {table' config config' : Table} {fields fields' : List (ModelField Value)}
    (name : String) (field : ModelField Value) (isName : field.name = name.toList)
    (agree : Agree Near table table') (isRead : readFields table fields = some config)
    (isRead' : readFields table' fields' = some config')
    (distinct : (fields.map ModelField.name).Nodup)
    (distinct' : (fields'.map ModelField.name).Nodup) (listed : field ∈ fields)
    (listed' : field ∈ fields') (plain : name.toList ∉ secretNames) :
    config'.lookup name.toList = config.lookup name.toList := by
  rw [← isName] at plain ⊢
  exact lookup_same field agree isRead isRead' distinct distinct' listed listed' (Near.same plain)

/-- A field without a validator is one field in both modes. -/
@[simp] theorem scalar_schemaOnly (runtime : Runtime) (name : String) (fieldType : FieldType)
    (default : Option Value) :
    scalar runtime.schemaOnly name fieldType default = scalar runtime name fieldType default := rfl

/-- So it accepts without the secrets what it accepts with them. -/
theorem scalar_follows {name : String} (plain : name.toList ∉ secretNames) (runtime : Runtime)
    (fieldType : FieldType) (default : Option Value) : Follows Near
      (scalar runtime name fieldType default) (scalar runtime.schemaOnly name fieldType default) :=
  Follows.self (Near.same plain)

/-- An optional secret is always accepted without the secrets. -/
theorem optionalResolvedSecret_schemaOnly (runtime : Runtime) (given : Value) :
    (optionalResolvedSecret runtime.schemaOnly given).isSome = true := by
  cases given with
  | none => rfl
  | _ =>
    simp only [optionalResolvedSecret]
    split <;> rfl

/-- So an optional secret accepts the reference of what it accepts. -/
theorem optionalSecret_follows (runtime : Runtime) (name : String) :
    Follows Near (optionalSecret runtime name) (optionalSecret runtime.schemaOnly name) :=
  Follows.total rfl id (optionalResolvedSecret_schemaOnly runtime)

/-- The same of one without a default. -/
theorem requiredOptionalSecret_follows (runtime : Runtime) (name : String) :
    Follows Near (requiredOptionalSecret runtime name)
      (requiredOptionalSecret runtime.schemaOnly name) :=
  Follows.total rfl id (optionalResolvedSecret_schemaOnly runtime)

/-- The same of a required secret. -/
theorem requiredSecret_follows (runtime : Runtime) (name : String) :
    Follows Near (requiredSecret runtime name) (requiredSecret runtime.schemaOnly name) :=
  Follows.total rfl id fun _ => rfl

/-- The same of the password of the directory. -/
theorem bindPassword_follows (runtime : Runtime) :
    Follows Near (bindPassword runtime) (bindPassword runtime.schemaOnly) :=
  Follows.total rfl id fun _ => rfl

/-- The same of the secret of a bot. -/
theorem hmacSecret_follows (runtime : Runtime) :
    Follows Near (hmacSecret runtime) (hmacSecret runtime.schemaOnly) := by
  refine Follows.total rfl id ?_
  intro given
  cases given <;> rfl

/-- The entries of a list are always accepted without the secrets. -/
theorem resolvedEntries_schemaOnly (runtime : Runtime) (items : List Value) :
    (resolvedEntries runtime.schemaOnly items).isSome = true := by
  induction items with
  | nil => rfl
  | cons given items inductionHypothesis =>
    obtain ⟨entries, isEntries⟩ := Option.isSome_iff_exists.mp inductionHypothesis
    simp only [resolvedEntries, isEntries, resolvedListEntry]
    split <;> rfl

/-- So a list of references is accepted where the list they are resolved to is. -/
theorem resolvedStringList_follows {name : String} (plain : name.toList ∉ secretNames) :
    Follows Near (resolvedStringList runtime name)
      (resolvedStringList runtime.schemaOnly name) where
  name := rfl
  default := id
  read given given' near isRead := by
    rcases near with rfl | ⟨isSecret, _⟩
    · cases given' with
      | list items =>
        obtain ⟨entries, isEntries⟩ :=
          Option.isSome_iff_exists.mp (resolvedEntries_schemaOnly runtime items)
        simp only [resolvedStringList, isEntries]
        rfl
      | _ => cases isRead
    · exact absurd isSecret plain

/-- An inner table accepts what its model accepts. -/
theorem innerTable_follows {name : String} {model model' : ConfigModel Value}
    (plain : name.toList ∉ secretNames) (validates : ∀ table,
      (model.validate table).isSome = true → (model'.validate table).isSome = true) :
    Follows Near (innerTable name model) (innerTable name model') where
  name := rfl
  default isDefault := by
    simp only [innerTable, Option.isSome_map] at isDefault ⊢
    exact validates [] isDefault
  read given given' near isRead := by
    rcases near with rfl | ⟨isSecret, _⟩
    · cases given' with
      | table entries =>
        simp only [innerTable, Option.isSome_map] at isRead ⊢
        exact validates entries isRead
      | _ => cases isRead
    · exact absurd isSecret plain

end Fields

section Sites

variable {runtime : Runtime} {table table' base : Table} {given value : Value} {s : Text}

/-- The site URL of a table, where it is given and not blank, is one of `https` as it stands. -/
def SiteIsUrl (runtime : Runtime) (table : Table) : Prop :=
  ∀ given, table.lookup "site_url".toList = some given →
    given = .none ∨ strip (pyStr runtime.valueText given) = [] ∨
      (normalizeHttpsBaseUrl runtime (strip (pyStr runtime.valueText given))).isSome = true

/-- A value that is resolved to itself. -/
def PlainGiven (runtime : Runtime) (given : Value) : Prop :=
  given = .none ∨ strip (pyStr runtime.valueText given) = [] ∨
    runtime.refers (strip (pyStr runtime.valueText given)) = false

/-- What a value that is given is resolved to: null where its text is blank. -/
theorem optionalResolvedSecret_given (isGiven : given ≠ .none) :
    optionalResolvedSecret runtime given =
      if strip (pyStr runtime.valueText given) = [] then some .none
      else (runtime.resolve (strip (pyStr runtime.valueText given))).map .text := by
  cases given with
  | none => exact absurd rfl isGiven
  | _ => rfl

/-- Without its secret a setting is its own text, trimmed. -/
theorem optionalResolvedSecret_reference (isGiven : given ≠ .none) :
    optionalResolvedSecret runtime.schemaOnly given =
      if strip (pyStr runtime.valueText given) = [] then some .none
      else some (.text (strip (pyStr runtime.valueText given))) := by
  rw [optionalResolvedSecret_given isGiven, schemaOnly_valueText, schemaOnly_resolve,
    Option.map_some]

/-- A plain value gives the same in both modes. -/
theorem optionalResolvedSecret_plain (plain : PlainGiven runtime given) :
    optionalResolvedSecret runtime.schemaOnly given = optionalResolvedSecret runtime given := by
  rcases plain with rfl | plain
  · rfl
  · by_cases isGiven : given = .none
    · rw [isGiven]
      rfl
    · rw [optionalResolvedSecret_reference isGiven, optionalResolvedSecret_given isGiven]
      rcases plain with blank | refersNot
      · rw [if_pos blank, if_pos blank]
      · rw [Runtime.resolve, runtime.resolver.plain _ refersNot, Option.map_some]

/-- A site URL that is not given is null. -/
theorem siteUrl_absent (absent : table.lookup "site_url".toList = none) :
    (siteUrl runtime).value table = some .none := ModelField.value_absent absent

/-- A site URL that is given is read from the value. -/
theorem siteUrl_given (isGiven : table.lookup "site_url".toList = some given) :
    (siteUrl runtime).value table = (siteUrl runtime).read given := ModelField.value_given isGiven

/-- It is resolved first and normalized then. -/
theorem siteUrl_read (runtime : Runtime) (given : Value) : (siteUrl runtime).read given =
    (optionalResolvedSecret runtime given).bind (normalizeSiteUrl runtime) := rfl

/-- Normalizing a URL resolves nothing. -/
theorem normalizeHttpsBaseUrl_schemaOnly (runtime : Runtime) (url : Text) :
    normalizeHttpsBaseUrl runtime.schemaOnly url = normalizeHttpsBaseUrl runtime url := by
  rw [normalizeHttpsBaseUrl, normalizeHttpsBaseUrl, schemaOnly_netlocAllowed]

/-- Nor does the check of the site URL. -/
theorem normalizeSiteUrl_schemaOnly (runtime : Runtime) :
    normalizeSiteUrl runtime.schemaOnly = normalizeSiteUrl runtime := by
  funext given
  cases given with
  | text s => rw [normalizeSiteUrl, normalizeSiteUrl, normalizeHttpsBaseUrl_schemaOnly]
  | _ => rfl

/-- A plain value gives the same site URL in both modes. -/
theorem siteUrl_plain (plain : PlainGiven runtime given) :
    (siteUrl runtime.schemaOnly).read given = (siteUrl runtime).read given := by
  rw [siteUrl_read, siteUrl_read, optionalResolvedSecret_plain plain, normalizeSiteUrl_schemaOnly]

/-- Without its secret a site URL is read exactly if it is given as a URL, or is null or blank. -/
theorem siteUrl_reference_iff : ((siteUrl runtime.schemaOnly).read given).isSome = true ↔
    given = .none ∨ strip (pyStr runtime.valueText given) = [] ∨
      (normalizeHttpsBaseUrl runtime (strip (pyStr runtime.valueText given))).isSome = true := by
  rw [siteUrl_read, normalizeSiteUrl_schemaOnly]
  by_cases isGiven : given = .none
  · rw [isGiven]
    exact iff_of_true rfl (Or.inl rfl)
  · rw [optionalResolvedSecret_reference isGiven, or_iff_right isGiven]
    by_cases blank : strip (pyStr runtime.valueText given) = []
    · rw [if_pos blank]
      exact iff_of_true rfl (Or.inl blank)
    · rw [if_neg blank, or_iff_right blank, Option.bind_some, normalizeSiteUrl, strip_strip,
        if_neg blank, Option.isSome_map]

/-- Without its secrets a table's site URL is read exactly if it is given as a URL. -/
theorem siteUrl_schemaOnly_iff : ((siteUrl runtime.schemaOnly).value table).isSome = true ↔
    SiteIsUrl runtime table := by
  have sameName : (siteUrl runtime.schemaOnly).name = "site_url".toList := rfl
  rw [ModelField.value, sameName, SiteIsUrl]
  cases table.lookup "site_url".toList with
  | none =>
    apply iff_of_true rfl
    intro given isGiven
    cases isGiven
  | some given =>
    simp only [Option.some.injEq, forall_eq']
    exact siteUrl_reference_iff

/-- A URL refers to nothing, so a site URL that is given as one is plain. -/
theorem SiteIsUrl.plain (isUrl : SiteIsUrl runtime table)
    (isGiven : table.lookup "site_url".toList = some given) : PlainGiven runtime given := by
  rcases isUrl given isGiven with isNone | blank | normalized
  · exact Or.inl isNone
  · exact Or.inr (Or.inl blank)
  · obtain ⟨base, isBase⟩ := Option.isSome_iff_exists.mp normalized
    have https := (normalizeHttpsBaseUrl_some.mp isBase).2.1
    rw [strip_strip] at https
    exact Or.inr (Or.inr (https_plain https))

/-- The base URL that is made of a plain site URL is plain itself, which is what a connection hands
to the table it is merged under. -/
theorem siteUrl_read_plain (plain : PlainGiven runtime given)
    (isValue : (siteUrl runtime).read given = some value) : PlainGiven runtime value := by
  rw [siteUrl_read] at isValue
  obtain ⟨resolved, isResolved, normalized⟩ := Option.bind_eq_some_iff.mp isValue
  rw [← optionalResolvedSecret_plain plain] at isResolved
  by_cases isGiven : given = .none
  · rw [isGiven] at isResolved
    obtain rfl := Option.some.inj isResolved
    exact Or.inl (Option.some.inj normalized).symm
  · rw [optionalResolvedSecret_reference isGiven] at isResolved
    split at isResolved
    · obtain rfl := Option.some.inj isResolved
      exact Or.inl (Option.some.inj normalized).symm
    next nonBlank =>
      obtain rfl := Option.some.inj isResolved
      rw [normalizeSiteUrl, strip_strip, if_neg nonBlank] at normalized
      obtain ⟨base, isBase, rfl⟩ := Option.map_eq_some_iff.mp normalized
      obtain ⟨_, _, plain, blanks, parts⟩ := base_accepted isBase
      right
      right
      change runtime.refers (strip base) = false
      rw [Bool.eq_false_iff]
      intro refers
      rw [parts, Runtime.refers, isReference_append blanks refers] at plain
      cases plain

end Sites

end Thaum.Settings
