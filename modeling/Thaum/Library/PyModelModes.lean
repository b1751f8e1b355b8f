import Mathlib.Data.List.Forall2
import Thaum.Library.PyModels

/-!
# One table validated in two modes

A validated model can be read in a second mode, in which some of its fields are given other
values or read them in another way. Which values stand for each other is a relation between
them for each name. Where every field of the second mode accepts what stands for an accepted
value, the model of the second mode accepts what the first accepts.
-/

namespace PyModels

open PyText

variable {V : Type} {near : Text → V → V → Prop} {table table' config config' : List (Text × V)}
  {fields fields' : List (ModelField V)} {field field' : ModelField V} {name : Text}

/-- Two tables with the same names, and values that stand for each other. -/
structure Agree (near : Text → V → V → Prop) (table table' : List (Text × V)) : Prop where
  names : table'.map Prod.fst = table.map Prod.fst
  values : ∀ name given, table.lookup name = some given →
    ∃ given', table'.lookup name = some given' ∧ near name given given'

/-- A table agrees with itself where each value stands for itself. -/
theorem Agree.refl (reflexive : ∀ name given, near name given given) (table : List (Text × V)) :
    Agree near table table where
  names := rfl
  values name given isGiven := ⟨given, isGiven, reflexive name given⟩

/-- A name is bound to nothing exactly if the table has no entry for it. -/
theorem lookup_none_iff : table.lookup name = none ↔ name ∉ table.map Prod.fst := by
  rw [List.lookup_eq_none_iff, List.mem_map]
  constructor
  · rintro absent ⟨entry, listed, rfl⟩
    exact absurd (absent entry listed) (by simp)
  · intro absent entry listed
    rw [bne_iff_ne]
    rintro rfl
    exact absent ⟨entry, listed, rfl⟩

/-- A name that is missing in one mode is missing in the other. -/
theorem Agree.absent (agree : Agree near table table') (absent : table.lookup name = none) :
    table'.lookup name = none := by
  rw [lookup_none_iff] at absent ⊢
  rw [agree.names]
  exact absent

/-- A value that only itself stands for is the same in both tables. -/
theorem Agree.same (agree : Agree near table table')
    (plain : ∀ given given', near name given given' → given' = given) :
    table'.lookup name = table.lookup name := by
  cases isGiven : table.lookup name with
  | none => exact agree.absent isGiven
  | some given =>
    obtain ⟨given', isGiven', isNear⟩ := agree.values name given isGiven
    rw [isGiven', plain given given' isNear]

/-- A field that accepts what stands for a value that another accepts. -/
structure Follows (near : Text → V → V → Prop) (field field' : ModelField V) : Prop where
  name : field'.name = field.name
  default : field.default.isSome = true → field'.default.isSome = true
  read : ∀ given given', near field.name given given' → (field.read given).isSome = true →
    (field'.read given').isSome = true

/-- A field that follows another one has a value where that one has, whether it is given or left to
its default. -/
theorem Follows.value (follows : Follows near field field') (agree : Agree near table table')
    (isRead : (field.value table).isSome = true) : (field'.value table').isSome = true := by
  rw [ModelField.value] at isRead ⊢
  rw [follows.name]
  cases isGiven : table.lookup field.name with
  | none =>
    rw [agree.absent isGiven]
    rw [isGiven] at isRead
    exact follows.default isRead
  | some given =>
    obtain ⟨given', isGiven', isNear⟩ := agree.values field.name given isGiven
    rw [isGiven']
    rw [isGiven] at isRead
    exact follows.read given given' isNear isRead

/-- A field reads a value that only itself stands for as before. -/
theorem Follows.self (plain : ∀ given given', near field.name given given' → given' = given) :
    Follows near field field where
  name := rfl
  default := id
  read given given' isNear isRead := by
    rw [plain given given' isNear]
    exact isRead

/-- A field that reads everything follows one of its name, if it has a default where the other one
has. -/
theorem Follows.total (sameName : field'.name = field.name)
    (default : field.default.isSome = true → field'.default.isSome = true)
    (reads : ∀ given, (field'.read given).isSome = true) : Follows near field field' :=
  ⟨sameName, default, fun _ given' _ _ => reads given'⟩

/-- Field by field, the second list follows the first. -/
theorem forall₂_follows (follow : List.Forall₂ (Follows near) fields fields') :
    ∀ field' ∈ fields', ∃ field ∈ fields, Follows near field field' := by
  induction follow with
  | nil => simp
  | cons first _ inductionHypothesis =>
    intro field' listed
    rcases List.mem_cons.mp listed with rfl | later
    · exact ⟨_, List.mem_cons_self, first⟩
    · obtain ⟨field, listed, follows⟩ := inductionHypothesis field' later
      exact ⟨field, List.mem_cons_of_mem _ listed, follows⟩

/-- Lists of fields that follow each other have the same names in the same order. -/
theorem follows_names (follow : List.Forall₂ (Follows near) fields fields') :
    fields'.map ModelField.name = fields.map ModelField.name := by
  induction follow with
  | nil => rfl
  | cons first _ inductionHypothesis =>
    rw [List.map_cons, List.map_cons, first.name, inductionHypothesis]

/-- Fields that follow others, or are read for a reason of their own, are all read. Fields are read
one by one, so it is enough to look at each of them. -/
theorem readFields_follows (agree : Agree near table table')
    (follow : ∀ field' ∈ fields', (∃ field ∈ fields, Follows near field field') ∨
      (field'.value table').isSome = true)
    (isRead : (readFields table fields).isSome = true) :
    (readFields table' fields').isSome = true := by
  rw [readFields_isSome_iff] at isRead ⊢
  intro field' listed'
  rcases follow field' listed' with ⟨field, listed, follows⟩ | reads
  · exact follows.value agree (isRead field listed)
  · exact reads

/-- A setting that only itself stands for is the same after validation. -/
theorem lookup_same (field : ModelField V) (agree : Agree near table table')
    (isRead : readFields table fields = some config)
    (isRead' : readFields table' fields' = some config')
    (distinct : (fields.map ModelField.name).Nodup)
    (distinct' : (fields'.map ModelField.name).Nodup) (listed : field ∈ fields)
    (listed' : field ∈ fields')
    (plain : ∀ given given', near field.name given given' → given' = given) :
    config'.lookup field.name = config.lookup field.name :=
  calc config'.lookup field.name
      = field.value table' := readFields_lookup isRead' distinct' listed'
    _ = field.value table := ModelField.value_congr (agree.same plain)
    _ = config.lookup field.name := (readFields_lookup isRead distinct listed).symm

/-- A model accepts in the second mode what it accepts in the first: its names are known, its fields
are read, and its last check is the one that is asked for. -/
theorem validate_follows {model model' : ConfigModel V} (agree : Agree near table table')
    (validated : (model.validate table).isSome = true)
    (sameNames : model'.fields.map ModelField.name = model.fields.map ModelField.name)
    (follow : ∀ field' ∈ model'.fields, (∃ field ∈ model.fields, Follows near field field') ∨
      (field'.value table').isSome = true)
    (accepts : ∀ config', readFields table' model'.fields = some config' →
      model'.accepts config' = true) :
    (model'.validate table').isSome = true := by
  obtain ⟨config, isValid⟩ := Option.isSome_iff_exists.mp validated
  have isRead := (validate_some isValid).1
  obtain ⟨config', isRead'⟩ := Option.isSome_iff_exists.mp
    (readFields_follows agree follow (Option.isSome_of_mem isRead))
  have known : (table.all fun entry => (model.fields.map ModelField.name).contains entry.1) =
      true := by
    rw [ConfigModel.validate] at isValid
    split at isValid
    next known => exact known
    next => cases isValid
  have known' : (table'.all fun entry => (model'.fields.map ModelField.name).contains entry.1) =
      true := by
    rw [sameNames, List.all_eq_true]
    intro entry listed
    have isName : entry.1 ∈ table.map Prod.fst := by
      rw [← agree.names]
      exact List.mem_map_of_mem listed
    obtain ⟨entry', listed', same⟩ := List.mem_map.mp isName
    rw [← same]
    exact List.all_eq_true.mp known entry' listed'
  rw [ConfigModel.validate, if_pos known', Option.isSome_iff_exists]
  exact ⟨config', Option.filter_eq_some_iff.mpr ⟨isRead', accepts config' isRead'⟩⟩

/-- A model whose fields all follow accepts what the other does, if its last check does. -/
theorem validate_of_follows {model model' : ConfigModel V} (agree : Agree near table table')
    (follow : List.Forall₂ (Follows near) model.fields model'.fields)
    (accepts : ∀ config', readFields table' model'.fields = some config' →
      model'.accepts config' = true)
    (validated : (model.validate table).isSome = true) :
    (model'.validate table').isSome = true :=
  validate_follows agree validated (follows_names follow)
    (fun field' listed => Or.inl (forall₂_follows follow field' listed)) accepts

end PyModels
