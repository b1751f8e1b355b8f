import Thaum.Settings.SchemaFields

/-!
# The lookup plugin without its secrets

A consumer's table is merged with its connection before it is validated, and the connection is
validated on its own. The two modes merge into tables that agree but for the secrets. So what
is refused without the secrets is refused for a site URL: that of the connection, or the one
that the settings of the Atlassian plugin hold themselves.
-/

namespace Thaum.Settings

open PyText PyUrl PyModels

section Connections

variable {runtime : Runtime} {table table' base conn consumer raw : Table} {given value : Value}
  {name : Text}

/-- The connection table that a consumer refers to. -/
def connectionOf (runtime : Runtime) (raw consumer : Table) : Option Table :=
  (connectionRef runtime consumer).bind fun ref =>
    match (tableOrEmpty (raw.lookup "connections".toList)).lookup ref with
    | some (.table conn) => some conn
    | _ => none

/-- The tables of a consumer and of its connection give their site URLs as URLs. -/
def ConnectionIsUrl (runtime : Runtime) (raw consumer : Table) : Prop :=
  ∀ conn, connectionOf runtime raw consumer = some conn → SiteIsUrl runtime conn

/-- Dropping a name from a table leaves the others. -/
theorem lookup_filter_ne (dropped : Text) :
    (table.filter fun entry => entry.1 ≠ dropped).lookup name =
      if name = dropped then none else table.lookup name := by
  rw [lookup_filter fun key => decide (key ≠ dropped)]
  by_cases isDropped : name = dropped <;> simp [isDropped]

/-- An optional secret and its reference are near. -/
theorem optionalSecret_near {name : String} (isSecret : name ∈ atlassianSecrets)
    (isValue : (optionalSecret runtime name).value table = some value) :
    ∃ value', (optionalSecret runtime.schemaOnly name).value table = some value' ∧
      Near name.toList value value' := by
  cases isGiven : table.lookup name.toList with
  | none =>
    rw [ModelField.value_absent isGiven] at isValue
    exact ⟨value, (ModelField.value_absent isGiven).trans isValue, Or.inl rfl⟩
  | some given =>
    rw [ModelField.value_given isGiven] at isValue
    have isReference : (optionalSecret runtime.schemaOnly name).value table =
        optionalResolvedSecret runtime.schemaOnly given := ModelField.value_given isGiven
    change optionalResolvedSecret runtime given = some value at isValue
    rw [isReference]
    by_cases isNone : given = .none
    · rw [isNone] at isValue ⊢
      exact ⟨value, isValue, Or.inl rfl⟩
    · rw [optionalResolvedSecret_given isNone] at isValue
      rw [optionalResolvedSecret_reference isNone]
      split at isValue
      next blank =>
        rw [if_pos blank]
        exact ⟨value, isValue, Or.inl rfl⟩
      next nonBlank =>
        rw [if_neg nonBlank]
        obtain ⟨s, _, rfl⟩ := Option.map_eq_some_iff.mp isValue
        refine ⟨_, rfl, Or.inr ⟨List.mem_map_of_mem isSecret, s, _, rfl, rfl, ?_⟩⟩
        rw [strip_strip]
        exact nonBlank

/-- The fields of a connection: its plugin, its site URL and its secrets. -/
theorem connection_field {field : ModelField Value}
    (listed : field ∈ (atlassianConnectionModel runtime).fields) :
    field = scalar runtime "plugin" (.literal ["atlassian".toList])
        (some (.text "atlassian".toList)) ∨
      field = siteUrl runtime ∨ ∃ name ∈ atlassianSecrets, field = optionalSecret runtime name := by
  simp only [atlassianConnectionModel, List.mem_cons, List.not_mem_nil, or_false] at listed
  rcases listed with rfl | rfl | rfl | rfl | rfl | rfl
  · exact Or.inl rfl
  · exact Or.inr (Or.inl rfl)
  · exact Or.inr (Or.inr ⟨_, by decide, rfl⟩)
  · exact Or.inr (Or.inr ⟨_, by decide, rfl⟩)
  · exact Or.inr (Or.inr ⟨_, by decide, rfl⟩)
  · exact Or.inr (Or.inr ⟨_, by decide, rfl⟩)

/-- Each secret of the Atlassian plugin is a field of the connection. -/
theorem connection_secret {name : String} (isSecret : name ∈ atlassianSecrets) :
    optionalSecret runtime name ∈ (atlassianConnectionModel runtime).fields := by
  simp only [atlassianSecrets, List.mem_cons, List.not_mem_nil, or_false] at isSecret
  rcases isSecret with rfl | rfl | rfl | rfl <;> simp [atlassianConnectionModel]

/-- The fields of a connection have different names. -/
theorem connection_names (runtime : Runtime) :
    ((atlassianConnectionModel runtime).fields.map ModelField.name).Nodup := by
  change (["plugin", "site_url", "cloud_id", "org_id", "user", "api_token"].map
    String.toList).Nodup
  decide +kernel

/-- A connection is validated without its secrets if its site URL is a URL. -/
theorem connection_follows (isUrl : SiteIsUrl runtime conn)
    (validated : ((atlassianConnectionModel runtime).validate conn).isSome = true) :
    ((atlassianConnectionModel runtime.schemaOnly).validate conn).isSome = true := by
  refine validate_follows (agree_refl conn) validated rfl ?_ fun _ _ => rfl
  intro field' listed
  rcases connection_field listed with rfl | rfl | ⟨name, isSecret, rfl⟩
  · left
    exact ⟨_, List.mem_cons_self, scalar_follows (by decide) runtime _ _⟩
  · right
    exact siteUrl_schemaOnly_iff.mpr isUrl
  · left
    exact ⟨_, connection_secret isSecret, optionalSecret_follows runtime name⟩

/-- A connection whose site URL is a URL is validated in both modes, and its secrets are near. -/
theorem connection_agree (isUrl : SiteIsUrl runtime conn)
    (validated : (atlassianConnectionModel runtime).validate conn = some base) :
    ∃ base', (atlassianConnectionModel runtime.schemaOnly).validate conn = some base' ∧
      Agree Near base base' ∧
        ∀ given, base.lookup "site_url".toList = some given → PlainGiven runtime given := by
  obtain ⟨base', validated'⟩ := Option.isSome_iff_exists.mp
    (connection_follows isUrl (Option.isSome_of_mem validated))
  have isRead := (validate_some validated).1
  have isRead' := (validate_some validated').1
  have bound {field : ModelField Value}
      (listed : field ∈ (atlassianConnectionModel runtime).fields) :
      base.lookup field.name = field.value conn :=
    readFields_lookup isRead (connection_names runtime) listed
  have bound' {field : ModelField Value}
      (listed : field ∈ (atlassianConnectionModel runtime.schemaOnly).fields) :
      base'.lookup field.name = field.value conn :=
    readFields_lookup isRead' (connection_names runtime.schemaOnly) listed
  have isSite : siteUrl runtime ∈ (atlassianConnectionModel runtime).fields := by
    simp [atlassianConnectionModel]
  have isSite' : siteUrl runtime.schemaOnly ∈
      (atlassianConnectionModel runtime.schemaOnly).fields := by
    simp [atlassianConnectionModel]
  have site : (siteUrl runtime.schemaOnly).value conn = (siteUrl runtime).value conn := by
    cases isGiven : conn.lookup "site_url".toList with
    | none => rw [siteUrl_absent isGiven, siteUrl_absent isGiven]
    | some given =>
      rw [siteUrl_given isGiven, siteUrl_given isGiven, siteUrl_plain (isUrl.plain isGiven)]
  refine ⟨base', validated', ⟨?_, ?_⟩, ?_⟩
  · rw [readFields_names isRead, readFields_names isRead']
    rfl
  · intro name given isGiven
    have isName : name ∈ base.map Prod.fst := by
      by_contra absent
      rw [lookup_none_iff.mpr absent] at isGiven
      cases isGiven
    rw [readFields_names isRead] at isName
    obtain ⟨field, listed, rfl⟩ := List.mem_map.mp isName
    rw [bound listed] at isGiven
    rcases connection_field listed with rfl | rfl | ⟨name, isSecret, rfl⟩
    · exact ⟨given, (bound' List.mem_cons_self).trans isGiven, Or.inl rfl⟩
    · exact ⟨given, (bound' isSite').trans (site.trans isGiven), Or.inl rfl⟩
    · obtain ⟨given', isReference, near⟩ := optionalSecret_near isSecret isGiven
      exact ⟨given', (bound' (connection_secret isSecret)).trans isReference, near⟩
  · intro given isBound
    have isValue : (siteUrl runtime).value conn = some given := (bound isSite).symm.trans isBound
    cases isGiven : conn.lookup "site_url".toList with
    | none =>
      rw [siteUrl_absent isGiven] at isValue
      exact Or.inl (Option.some.inj isValue).symm
    | some site =>
      rw [siteUrl_given isGiven] at isValue
      exact siteUrl_read_plain (isUrl.plain isGiven) isValue

/-- The connection a consumer refers to is the same in both modes. -/
theorem connectionRef_schemaOnly (runtime : Runtime) (consumer : Table) :
    connectionRef runtime.schemaOnly consumer = connectionRef runtime consumer := by
  unfold connectionRef
  rfl

/-- So is the table of that connection. -/
theorem connectionOf_schemaOnly (runtime : Runtime) (raw consumer : Table) :
    connectionOf runtime.schemaOnly raw consumer = connectionOf runtime raw consumer := by
  rw [connectionOf, connectionOf, connectionRef_schemaOnly]

/-- So is its plugin. -/
theorem connectionPlugin_schemaOnly (runtime : Runtime) (conn : Table) :
    connectionPlugin runtime.schemaOnly conn = connectionPlugin runtime conn := by
  unfold connectionPlugin
  rfl

/-- A consumer's table with what a connection gives under it. -/
def underlay (consumer base : Table) : Table :=
  (consumer ++ base.filter fun entry => entry.1 ≠ "plugin".toList).filter
    fun entry => entry.1 ≠ "connection_ref".toList

/-- A merge leaves the table alone, or puts a validated connection under it. -/
theorem mergeConnectionProfile_some :
    mergeConnectionProfile runtime raw consumer = some table ↔
      connectionRef runtime consumer = none ∧ table = consumer ∨
        ∃ conn base, connectionRef runtime consumer ≠ none ∧
          connectionOf runtime raw consumer = some conn ∧
          connectionPlugin runtime conn = "atlassian".toList ∧
          (atlassianConnectionModel runtime).validate conn = some base ∧
          table = underlay consumer base := by
  rw [mergeConnectionProfile, connectionOf]
  cases isRef : connectionRef runtime consumer with
  | none =>
    constructor
    · intro merged
      exact Or.inl ⟨rfl, (Option.some.inj merged).symm⟩
    · rintro (⟨_, rfl⟩ | ⟨_, _, isSome, _⟩)
      · rfl
      · exact absurd rfl isSome
  | some ref =>
    simp only [Option.bind_some, reduceCtorEq, false_and, false_or, ne_eq, not_false_eq_true,
      true_and]
    cases found : (tableOrEmpty (raw.lookup "connections".toList)).lookup ref with
    | none => simp
    | some given =>
      cases given with
      | table conn =>
        simp only [Option.some.injEq, exists_and_left, exists_eq_left']
        by_cases isPlugin : connectionPlugin runtime conn = "atlassian".toList
        · rw [if_pos isPlugin, Option.map_eq_some_iff]
          constructor
          · rintro ⟨base, validated, rfl⟩
            exact ⟨isPlugin, base, validated, rfl⟩
          · rintro ⟨_, base, validated, rfl⟩
            exact ⟨base, validated, rfl⟩
        · rw [if_neg isPlugin]
          apply iff_of_false
          · intro merged
            cases merged
          · rintro ⟨isPlugin', _⟩
            exact isPlugin isPlugin'
      | _ => simp

/-- A setting of the merged table is the consumer's own, or else the connection's; the reference and
the connection's plugin are left out. -/
theorem lookup_underlay (consumer base : Table) (name : Text) :
    (underlay consumer base).lookup name = if name = "connection_ref".toList then none
      else (consumer.lookup name).or
        (if name = "plugin".toList then none else base.lookup name) := by
  rw [underlay, lookup_filter_ne, List.lookup_append, lookup_filter_ne]

/-- The names of the merged table are the consumer's and then those of the connection. -/
theorem underlay_names (consumer base : Table) : (underlay consumer base).map Prod.fst =
    (consumer.map Prod.fst ++ (base.map Prod.fst).filter fun name => name ≠ "plugin".toList).filter
      fun name => name ≠ "connection_ref".toList := by
  rw [List.filter_map, underlay, ← List.map_append, List.filter_map]
  rfl

/-- Connections that agree give tables that agree. -/
theorem underlay_agree {base' : Table} (agree : Agree Near base base') (consumer : Table) :
    Agree Near (underlay consumer base) (underlay consumer base') where
  names := by rw [underlay_names, underlay_names, agree.names]
  values name given isGiven := by
    rw [lookup_underlay] at isGiven ⊢
    split at isGiven
    next => cases isGiven
    next isKept =>
      rw [if_neg isKept]
      cases own : consumer.lookup name with
      | some ownGiven =>
        rw [own, Option.some_or] at isGiven
        exact ⟨ownGiven, rfl, Or.inl (Option.some.inj isGiven)⟩
      | none =>
        rw [own, Option.none_or] at isGiven
        split at isGiven
        next => cases isGiven
        next isSetting =>
          rw [Option.none_or, if_neg isSetting]
          exact agree.values name given isGiven

/-- A merge is done without the secrets if the connection's site URL is a URL; the tables agree, and
a site URL is the consumer's own or plain. -/
theorem merge_agree (isUrl : ConnectionIsUrl runtime raw consumer)
    (merged : mergeConnectionProfile runtime raw consumer = some table) :
    ∃ table', mergeConnectionProfile runtime.schemaOnly raw consumer = some table' ∧
      Agree Near table table' ∧ ∀ given, table.lookup "site_url".toList = some given →
        consumer.lookup "site_url".toList = some given ∨ PlainGiven runtime given := by
  rcases mergeConnectionProfile_some.mp merged with
    ⟨noRef, rfl⟩ | ⟨conn, base, isRef, isConn, isPlugin, validated, rfl⟩
  · refine ⟨table, ?_, agree_refl table, fun given => Or.inl⟩
    apply mergeConnectionProfile_some.mpr
    rw [connectionRef_schemaOnly]
    exact Or.inl ⟨noRef, rfl⟩
  · obtain ⟨base', validated', agree, plain⟩ := connection_agree (isUrl conn isConn) validated
    refine ⟨underlay consumer base', ?_, underlay_agree agree consumer, ?_⟩
    · apply mergeConnectionProfile_some.mpr
      rw [connectionRef_schemaOnly, connectionOf_schemaOnly]
      refine Or.inr ⟨conn, base', isRef, isConn, ?_, validated', rfl⟩
      rw [connectionPlugin_schemaOnly]
      exact isPlugin
    · intro given isGiven
      rw [lookup_underlay, if_neg (by decide)] at isGiven
      cases own : consumer.lookup "site_url".toList with
      | some ownGiven =>
        rw [own, Option.some_or] at isGiven
        exact Or.inl isGiven
      | none =>
        rw [own, Option.none_or, if_neg (by decide)] at isGiven
        exact Or.inr (plain given isGiven)

/-- What a consumer gives itself is kept by a merge. -/
theorem merge_own (merged : mergeConnectionProfile runtime raw consumer = some table)
    (kept : name ≠ "connection_ref".toList) (own : consumer.lookup name = some given) :
    table.lookup name = some given := by
  rcases mergeConnectionProfile_some.mp merged with ⟨_, rfl⟩ | ⟨_, base, _, _, _, _, rfl⟩
  · exact own
  · rw [lookup_underlay, if_neg kept, own]
    rfl

/-- A merge that is done without the secrets has read the connection's site URL, so that one is a
URL. -/
theorem merge_isUrl
    (merged : mergeConnectionProfile runtime.schemaOnly raw consumer = some table) :
    ConnectionIsUrl runtime raw consumer := by
  intro conn isConn
  rcases mergeConnectionProfile_some.mp merged with
    ⟨noRef, _⟩ | ⟨conn', base, _, isConn', _, validated, _⟩
  · rw [connectionRef_schemaOnly] at noRef
    rw [connectionOf, noRef] at isConn
    cases isConn
  · rw [connectionOf_schemaOnly] at isConn'
    obtain rfl := Option.some.inj (isConn.symm.trans isConn')
    have isRead := Option.isSome_of_mem (validate_some validated).1
    apply siteUrl_schemaOnly_iff.mp
    exact readFields_isSome_iff.mp isRead _ (by simp [atlassianConnectionModel])

end Connections

section Lookup

variable {runtime : Runtime} {table table' config config' raw : Table}
  {fields fields' : List (ModelField Value)} {field : ModelField Value} {lookupType : LookupType}

/-- The settings of the lookup plugin without its connection. -/
def ownLookup (runtime : Runtime) (raw : Table) (lookupType : LookupType) : Table :=
  mergedLookupPluginConfig runtime lookupType (tableOrEmpty (raw.lookup "lookup".toList))

/-- Each field of the directory plugin accepts without the secrets what it accepts with them. -/
theorem ldapAd_follows (runtime : Runtime) : List.Forall₂ (Follows Near)
    (ldapAdConfigModel runtime).fields (ldapAdConfigModel runtime.schemaOnly).fields := by
  simp only [ldapAdConfigModel, baseLookupFields, List.cons_append, List.nil_append,
    List.forall₂_cons, List.Forall₂.nil, and_true]
  repeat' apply And.intro
  all_goals first
    | exact scalar_follows (by decide) runtime _ _
    | exact bindPassword_follows runtime

/-- A secret that is given has a reference that is not blank, so the checks for missing secrets pass
in both modes. -/
theorem secret_nonBlank {name : String} {s : Text} (agree : Agree Near table table')
    (isValue : (optionalSecret runtime name).value table = some (.text s)) :
    ∃ t, (optionalSecret runtime.schemaOnly name).value table' = some (.text t) ∧
      strip t ≠ [] := by
  cases isGiven : table.lookup name.toList with
  | none =>
    rw [ModelField.value_absent isGiven] at isValue
    cases isValue
  | some given =>
    obtain ⟨given', isGiven', near⟩ := agree.values _ given isGiven
    have isReference : (optionalSecret runtime.schemaOnly name).value table' =
        optionalResolvedSecret runtime.schemaOnly given' := ModelField.value_given isGiven'
    have isSecret : (optionalSecret runtime name).value table =
        optionalResolvedSecret runtime given := ModelField.value_given isGiven
    rw [isSecret] at isValue
    rw [isReference]
    have isNone : given ≠ .none := by
      rintro rfl
      cases isValue
    rw [optionalResolvedSecret_given isNone] at isValue
    split at isValue
    next => cases isValue
    next nonBlankGiven =>
      rcases near with rfl | ⟨_, _, t, _, rfl, nonBlankText⟩
      · rw [optionalResolvedSecret_reference isNone, if_neg nonBlankGiven]
        refine ⟨_, rfl, ?_⟩
        rw [strip_strip]
        exact nonBlankGiven
      · refine ⟨strip t, ?_, ?_⟩
        · rw [optionalResolvedSecret_text, if_neg nonBlankText]
          rfl
        · rw [strip_strip]
          exact nonBlankText

/-- The fields of the Atlassian plugin: each follows one of the other mode, but for the site URL. -/
theorem atlassian_field {field : ModelField Value}
    (listed : field ∈ (atlassianConfigModel runtime.schemaOnly).fields) :
    (∃ field' ∈ (atlassianConfigModel runtime).fields, Follows Near field' field) ∨
      field = siteUrl runtime.schemaOnly := by
  have secret (name : String) (isSecret : name ∈ atlassianSecrets) :
      ∃ field' ∈ (atlassianConfigModel runtime).fields,
        Follows Near field' (optionalSecret runtime.schemaOnly name) :=
    ⟨_, atlassian_secret isSecret, optionalSecret_follows runtime name⟩
  simp only [atlassianConfigModel, baseLookupFields, List.cons_append, List.nil_append,
    List.mem_cons, List.not_mem_nil, or_false] at listed
  rcases listed with rfl | rfl | rfl | rfl | rfl | rfl | rfl | rfl | rfl
  · left
    exact ⟨_, List.mem_cons_self, scalar_follows (by decide) runtime _ _⟩
  · left
    exact ⟨_, by simp [atlassianConfigModel], scalar_follows (by decide) runtime _ _⟩
  · right
    rfl
  · exact .inl (secret _ (by decide))
  · exact .inl (secret _ (by decide))
  · exact .inl (secret _ (by decide))
  · exact .inl (secret _ (by decide))
  · left
    exact ⟨_, by simp [atlassianConfigModel], scalar_follows (by decide) runtime _ _⟩
  · left
    exact ⟨_, by simp [atlassianConfigModel], scalar_follows (by decide) runtime _ _⟩

/-- A plain site URL is the same in both modes. -/
theorem siteUrl_same (agree : Agree Near table table')
    (plain : ∀ given, table.lookup "site_url".toList = some given → PlainGiven runtime given) :
    (siteUrl runtime.schemaOnly).value table' = (siteUrl runtime).value table := by
  have same : table'.lookup "site_url".toList = table.lookup "site_url".toList :=
    agree.same (Near.same (by decide))
  cases isGiven : table.lookup "site_url".toList with
  | none =>
    rw [isGiven] at same
    rw [siteUrl_absent isGiven, siteUrl_absent same]
  | some given =>
    rw [isGiven] at same
    rw [siteUrl_given isGiven, siteUrl_given same, siteUrl_plain (plain given isGiven)]

/-- With a plain site URL the settings of the Atlassian plugin are validated in both modes. -/
theorem atlassian_validates (agree : Agree Near table table')
    (plain : ∀ given, table.lookup "site_url".toList = some given → PlainGiven runtime given)
    (validated : ((atlassianConfigModel runtime).validate table).isSome = true) :
    ((atlassianConfigModel runtime.schemaOnly).validate table').isSome = true := by
  obtain ⟨config, isValid⟩ := Option.isSome_iff_exists.mp validated
  obtain ⟨isRead, required⟩ := validate_some isValid
  have distinct := fields_distinct runtime .atlassian
  have distinct' := fields_distinct runtime.schemaOnly .atlassian
  have isSite : siteUrl runtime ∈ (atlassianConfigModel runtime).fields := by
    simp [atlassianConfigModel]
  have isSite' : siteUrl runtime.schemaOnly ∈
      (atlassianConfigModel runtime.schemaOnly).fields := by
    simp [atlassianConfigModel]
  have site := siteUrl_same agree plain
  refine validate_follows agree validated rfl ?_ ?_
  · intro field' listed
    apply (atlassian_field listed).imp_right
    rintro rfl
    rw [site]
    exact readFields_isSome_iff.mp (Option.isSome_of_mem isRead) _ isSite
  · intro config' isRead'
    apply List.all_eq_true.mpr
    intro name isRequired
    obtain ⟨s, isText, nonBlank⟩ := isNonBlank_iff.mp (List.all_eq_true.mp required name isRequired)
    rw [isNonBlank_iff]
    rcases List.mem_cons.mp isRequired with rfl | isSecret
    · refine ⟨s, ?_, nonBlank⟩
      have bound : config.lookup "site_url".toList = (siteUrl runtime).value table :=
        readFields_lookup isRead distinct isSite
      have bound' : config'.lookup "site_url".toList = (siteUrl runtime.schemaOnly).value table' :=
        readFields_lookup isRead' distinct' isSite'
      rw [bound', site, ← bound]
      exact isText
    · have bound : config.lookup name.toList = (optionalSecret runtime name).value table :=
        readFields_lookup isRead distinct (atlassian_secret isSecret)
      have bound' : config'.lookup name.toList =
          (optionalSecret runtime.schemaOnly name).value table' :=
        readFields_lookup isRead' distinct' (atlassian_secret isSecret)
      rw [bound']
      exact secret_nonBlank agree (bound.symm.trans isText)

/-- The settings of the directory plugin are validated in both modes. -/
theorem ldapAd_validates (agree : Agree Near table table')
    (validated : ((ldapAdConfigModel runtime).validate table).isSome = true) :
    ((ldapAdConfigModel runtime.schemaOnly).validate table').isSome = true := by
  obtain ⟨config, isValid⟩ := Option.isSome_iff_exists.mp validated
  obtain ⟨isRead, required⟩ := validate_some isValid
  refine validate_of_follows agree (ldapAd_follows runtime) ?_ validated
  intro config' isRead'
  have same (name : String) (fieldType : FieldType) (default : Option Value) :=
    setting_same name (scalar runtime name fieldType default) rfl agree isRead isRead'
      (fields_distinct runtime .ldapAd) (fields_distinct runtime.schemaOnly .ldapAd)
  have sameAttribute : config'.lookup "platform_ids_ldap_attribute".toList =
      config.lookup "platform_ids_ldap_attribute".toList :=
    same _ (.optional .str) (some .none) (by simp [ldapAdConfigModel])
      (by simp [ldapAdConfigModel]) (by decide)
  have sameFormat : config'.lookup "platform_ids_format".toList =
      config.lookup "platform_ids_format".toList :=
    same _ .str (some (.text "json".toList)) (by simp [ldapAdConfigModel])
      (by simp [ldapAdConfigModel]) (by decide)
  change validatePlatformIdsConfig config' = true
  rw [validatePlatformIdsConfig, sameAttribute, sameFormat]
  exact required

/-- The settings of the null plugin are validated in both modes. -/
theorem null_validates (agree : Agree Near table table')
    (validated : ((nullConfigModel runtime).validate table).isSome = true) :
    ((nullConfigModel runtime.schemaOnly).validate table').isSome = true := by
  refine validate_follows agree validated rfl ?_ fun _ _ => rfl
  intro field' listed
  obtain rfl := List.mem_singleton.mp listed
  exact Or.inl ⟨_, List.mem_cons_self, scalar_follows (by decide) runtime _ _⟩

/-- The settings of a lookup plugin that are validated with the secrets are validated without them
exactly if its site URLs are given as URLs. A site URL that the plugin holds itself comes before
that of its connection. -/
theorem lookup_schemaOnly_iff
    (passes : (validateConfigAfterLoad runtime lookupType raw).isSome = true) :
    (validateConfigAfterLoad runtime.schemaOnly lookupType raw).isSome = true ↔
      ConnectionIsUrl runtime raw (ownLookup runtime raw lookupType) ∧
        (lookupType = .atlassian → SiteIsUrl runtime (ownLookup runtime raw lookupType)) := by
  constructor
  · intro passes'
    obtain ⟨config', validated'⟩ := Option.isSome_iff_exists.mp passes'
    obtain ⟨table', merged', validated'⟩ := Option.bind_eq_some_iff.mp validated'
    refine ⟨merge_isUrl merged', ?_⟩
    rintro rfl given own
    have isSite : siteUrl runtime.schemaOnly ∈
        (atlassianConfigModel runtime.schemaOnly).fields := by simp [atlassianConfigModel]
    have isRead := Option.isSome_of_mem (validate_some validated').1
    have isUrl : SiteIsUrl runtime table' :=
      siteUrl_schemaOnly_iff.mp (readFields_isSome_iff.mp isRead _ isSite)
    exact isUrl given (merge_own merged' (by decide) own)
  · rintro ⟨connection, site⟩
    obtain ⟨config, validated⟩ := Option.isSome_iff_exists.mp passes
    obtain ⟨table, merged, validated⟩ := Option.bind_eq_some_iff.mp validated
    obtain ⟨table', merged', agree, isPlain⟩ := merge_agree connection merged
    have isMerged : mergedLookup runtime.schemaOnly lookupType raw = some table' := merged'
    have isValid := Option.isSome_of_mem validated
    rw [validateConfigAfterLoad, isMerged, Option.bind_some]
    cases lookupType with
    | null => exact null_validates agree isValid
    | atlassian =>
      refine atlassian_validates agree ?_ isValid
      intro given isGiven
      rcases isPlain given isGiven with own | plain
      · exact (site rfl).plain own
      · exact plain
    | ldapAd => exact ldapAd_validates agree isValid

end Lookup

end Thaum.Settings
