import Mathlib.Data.List.Nodup
import Thaum.Library.PyText
import Thaum.Library.PyJson

/-!
# Validated configuration models

A model reads a table of settings field by field. A field that is named in the table goes
through its validators, one that is not takes its default as it is, and a name that is no
field is refused; last the whole is checked. A validated configuration lists its fields in
the order of the model, and that list is also its dump.

What an annotation makes of a value of another type is the library's own and is passed in;
of a value of its type it makes that value.
-/

namespace PyModels

open PyText

section Model

variable {V : Type}

/-- A field: what its validators make of a value, `none` where one raises, and its
default, `none` where it is required. -/
structure ModelField (V : Type) where
  name : Text
  read : V → Option V
  default : Option V

/-- A configuration model; the validators of the whole leave it as it is. -/
structure ConfigModel (V : Type) where
  fields : List (ModelField V)
  accepts : List (Text × V) → Bool

/-- The value of a field in a table. -/
def ModelField.value (field : ModelField V) (table : List (Text × V)) : Option V :=
  match table.lookup field.name with
  | some given => field.read given
  | none => field.default

/-- The values of the fields, in their order. -/
def readFields (table : List (Text × V)) : List (ModelField V) → Option (List (Text × V))
  | [] => some []
  | field :: rest =>
    (field.value table).bind fun value =>
      (readFields table rest).map fun others => (field.name, value) :: others

/-- `model(**table)`. -/
def ConfigModel.validate (model : ConfigModel V) (table : List (Text × V)) :
    Option (List (Text × V)) :=
  if table.all fun entry => (model.fields.map ModelField.name).contains entry.1 then
    (readFields table model.fields).filter model.accepts
  else none

/-- `model(**table)` of a model that ignores a name that is no field. -/
def ConfigModel.validateIgnoring (model : ConfigModel V) (table : List (Text × V)) :
    Option (List (Text × V)) := (readFields table model.fields).filter model.accepts

/-- `model(**table)` of a model that keeps a name that is no field, after its fields. -/
def ConfigModel.validateKeeping (model : ConfigModel V) (table : List (Text × V)) :
    Option (List (Text × V)) :=
  (model.validateIgnoring table).map fun config =>
    config ++ table.filter fun entry => !(model.fields.map ModelField.name).contains entry.1

variable {fields : List (ModelField V)} {table config : List (Text × V)}

/-- A setting that is given goes through the validators of its field. -/
theorem ModelField.value_given {field : ModelField V} {given : V}
    (isGiven : table.lookup field.name = some given) : field.value table = field.read given := by
  rw [ModelField.value, isGiven]

/-- A setting that is not given has the default of its field, which no validator sees. -/
theorem ModelField.value_absent {field : ModelField V}
    (absent : table.lookup field.name = none) : field.value table = field.default := by
  rw [ModelField.value, absent]

/-- A field looks at its own entry only. Two tables that agree there give it the same value. -/
theorem ModelField.value_congr {field : ModelField V} {table' : List (Text × V)}
    (same : table'.lookup field.name = table.lookup field.name) :
    field.value table' = field.value table := by
  rw [ModelField.value, ModelField.value, same]

/-- The first field and the others are read apart from each other. -/
theorem readFields_cons {field : ModelField V} :
    readFields table (field :: fields) = some config ↔
      ∃ value others, field.value table = some value ∧ readFields table fields = some others ∧
        config = (field.name, value) :: others := by
  simp only [readFields, Option.bind_eq_some_iff, Option.map_eq_some_iff]
  constructor
  · rintro ⟨value, isValue, others, isOthers, rfl⟩
    exact ⟨value, others, isValue, isOthers, rfl⟩
  · rintro ⟨value, others, isValue, isOthers, rfl⟩
    exact ⟨value, isValue, others, isOthers, rfl⟩

/-- A validated configuration names the fields of its model, in their order and each of them
once. -/
theorem readFields_names (isRead : readFields table fields = some config) :
    config.map Prod.fst = fields.map ModelField.name := by
  induction fields generalizing config with
  | nil =>
    obtain rfl := Option.some.inj isRead
    rfl
  | cons field fields inductionHypothesis =>
    obtain ⟨value, others, _, isOthers, rfl⟩ := readFields_cons.mp isRead
    rw [List.map_cons, List.map_cons, inductionHypothesis isOthers]

/-- In a list of distinct names a listed entry is what its name is bound to. Without distinct names
an entry in front could hide it. -/
theorem lookup_listed {name : Text} {value : V} (distinct : (config.map Prod.fst).Nodup)
    (listed : (name, value) ∈ config) : config.lookup name = some value := by
  induction config with
  | nil => exact absurd listed List.not_mem_nil
  | cons entry config inductionHypothesis =>
    obtain ⟨fresh, distinct⟩ := List.nodup_cons.mp distinct
    rcases List.mem_cons.mp listed with rfl | later
    · exact List.lookup_cons_self
    · have apart : name ≠ entry.1 := by
        rintro rfl
        exact fresh (List.mem_map.mpr ⟨_, later, rfl⟩)
      rw [List.lookup_cons, beq_eq_false_iff_ne.mpr apart]
      exact inductionHypothesis distinct later

/-- Reading the fields again from a table that binds each of them to what was read. The result is
the same exactly where the validators leave their own values as they are. -/
theorem readFields_bound {again : List (Text × V)} (isRead : readFields table fields = some config)
    (bound : ∀ entry ∈ config, again.lookup entry.1 = some entry.2) :
    readFields again fields = some config ↔
      ∀ field ∈ fields, ∀ value ∈ field.value table, field.read value = some value := by
  induction fields generalizing config with
  | nil => simp [readFields, ← Option.some.inj isRead]
  | cons field fields inductionHypothesis =>
    obtain ⟨value, others, isValue, isOthers, rfl⟩ := readFields_cons.mp isRead
    obtain ⟨own, bound⟩ := List.forall_mem_cons.mp bound
    have reread : field.value again = field.read value := ModelField.value_given own
    rw [List.forall_mem_cons, ← inductionHypothesis isOthers bound, readFields_cons, reread]
    constructor
    · rintro ⟨value', others', isValue', isOthers', same⟩
      obtain ⟨sameEntry, rfl⟩ := List.cons.inj same
      obtain rfl := (Prod.mk.inj sameEntry).2
      refine ⟨?_, isOthers'⟩
      intro value'' isValue''
      rw [isValue] at isValue''
      rw [← Option.some.inj isValue'']
      exact isValue'
    · rintro ⟨kept, rest⟩
      exact ⟨value, others, kept value isValue, rest, rfl⟩

/-- Taking entries away by their names leaves every other name bound as it was. -/
theorem lookup_filter {name : Text} (keep : Text → Bool) :
    (table.filter fun entry => keep entry.1).lookup name =
      if keep name = true then table.lookup name else none := by
  induction table with
  | nil => simp
  | cons entry table inductionHypothesis =>
    rw [List.filter_cons, List.lookup_cons]
    by_cases isName : name = entry.1
    · subst isName
      cases kept : keep entry.1 with
      | false => simp [inductionHypothesis, kept]
      | true => rw [if_pos rfl, if_pos rfl, List.lookup_cons, beq_self_eq_true]
    · rw [beq_eq_false_iff_ne.mpr isName, ← inductionHypothesis]
      split
      next => rw [List.lookup_cons, beq_eq_false_iff_ne.mpr isName]
      next => rfl

/-- Each field has been read to a value, listed under its name. -/
theorem readFields_listed {field : ModelField V} (isRead : readFields table fields = some config)
    (listed : field ∈ fields) :
    ∃ value, field.value table = some value ∧ (field.name, value) ∈ config := by
  induction fields generalizing config with
  | nil => exact absurd listed List.not_mem_nil
  | cons first fields inductionHypothesis =>
    obtain ⟨value, others, isValue, isOthers, rfl⟩ := readFields_cons.mp isRead
    rcases List.mem_cons.mp listed with rfl | later
    · exact ⟨value, isValue, List.mem_cons_self⟩
    · obtain ⟨value, isValue, isEntry⟩ := inductionHypothesis isOthers later
      exact ⟨value, isValue, List.mem_cons_of_mem _ isEntry⟩

/-- A validated configuration binds each field to what was read for it. -/
theorem readFields_lookup {field : ModelField V} (isRead : readFields table fields = some config)
    (distinct : (fields.map ModelField.name).Nodup) (listed : field ∈ fields) :
    config.lookup field.name = field.value table := by
  have names := readFields_names isRead
  obtain ⟨value, isValue, isEntry⟩ := readFields_listed isRead listed
  rw [isValue]
  exact lookup_listed (names ▸ distinct) isEntry

/-- The fields are read exactly if each of them is. -/
theorem readFields_isSome_iff : (readFields table fields).isSome = true ↔
    ∀ field ∈ fields, (field.value table).isSome = true := by
  induction fields with
  | nil => simp [readFields]
  | cons field fields inductionHypothesis =>
    rw [List.forall_mem_cons, ← inductionHypothesis, readFields]
    cases field.value table with
    | none => simp
    | some value => simp

/-- A model that keeps unknown names and has no last check refuses a table only for one of its
fields. -/
theorem validateKeeping_isSome {model : ConfigModel V}
    (accepts : ∀ config, model.accepts config = true) :
    (model.validateKeeping table).isSome = (readFields table model.fields).isSome := by
  rw [ConfigModel.validateKeeping, ConfigModel.validateIgnoring, Option.isSome_map]
  cases readFields table model.fields with
  | none => rfl
  | some config => rw [Option.filter_some, if_pos (accepts config)]

/-- A validated table had all its fields read, and passed the check of the whole. -/
theorem validate_some {model : ConfigModel V} (validated : model.validate table = some config) :
    readFields table model.fields = some config ∧ model.accepts config = true := by
  rw [ConfigModel.validate] at validated
  split at validated
  · exact Option.filter_eq_some_iff.mp validated
  · exact absurd validated.symm (Option.some_ne_none config)

/-- The validators of the field leave what it was given as they made it. -/
def ModelField.Rereads (field : ModelField V) (table : List (Text × V)) : Prop :=
  ∀ value ∈ field.value table, field.read value = some value

/-- Validating the dump of a validated configuration gives the configuration back exactly if the
validators of each field leave the value they made as it is.

Proof: the dump names the fields of the model and binds each to its value, so every field is given
when it is read again, and none takes its default. -/
theorem validate_again_iff {model : ConfigModel V}
    (distinct : (model.fields.map ModelField.name).Nodup)
    (validated : model.validate table = some config) :
    model.validate config = some config ↔ ∀ field ∈ model.fields, field.Rereads table := by
  obtain ⟨isRead, accepted⟩ := validate_some validated
  have names := readFields_names isRead
  have known : (config.all fun entry => (model.fields.map ModelField.name).contains entry.1) =
      true := by
    rw [List.all_eq_true]
    intro entry listed
    rw [← names, List.contains_iff_mem]
    exact List.mem_map_of_mem listed
  have bound : ∀ entry ∈ config, config.lookup entry.1 = some entry.2 :=
    fun entry listed => lookup_listed (names ▸ distinct) listed
  rw [ConfigModel.validate, if_pos known, Option.filter_eq_some_iff,
    readFields_bound isRead bound, and_iff_left accepted]
  rfl

end Model

/-- What a table of settings or a dump holds. A date or time is given by its text. -/
inductive Value where
  | none : Value
  | bool : Bool → Value
  | int : Int → Value
  | float : PyJson.Float → Value
  | text : Text → Value
  | date : Text → Value
  | list : List Value → Value
  | table : List (Text × Value) → Value
  | secret : Text → Value

/-- `str` of a secret that is not empty. -/
def mask : Text := "**********".toList

/-- CPython's text of the values whose `str` is not computed here. -/
abbrev ValueText := Value → Text

/-- `str(value)`. -/
def pyStr (valueText : ValueText) : Value → Text
  | .none => "None".toList
  | .bool true => "True".toList
  | .bool false => "False".toList
  | .int n => (toString n).toList
  | .text s => s
  | .date s => s
  | .secret s => if s = [] then [] else mask
  | other => valueText other

/-- The annotations of fields without a validator of their own. -/
inductive FieldType where
  | bool | int | float | str | strList
  | intWithin (least greatest : Int)
  | literal (options : List Text)
  | optional (inner : FieldType)

/-- The value is of the type of the annotation. -/
def FieldType.admits : FieldType → Value → Bool
  | bool, .bool _ | int, .int _ | float, .float _ | str, .text _ => true
  | strList, .list items => items.all fun
    | .text _ => true
    | _ => false
  | intWithin least greatest, .int n => decide (least ≤ n ∧ n ≤ greatest)
  | literal options, .text s => options.contains s
  | optional _, .none => true
  | optional inner, value => inner.admits value
  | _, _ => false

/-- The conversions of the validation library: each gives a value of its annotation, and
a value of the annotation is given back. -/
structure Conversions where
  convert : FieldType → Value → Option Value
  typed {fieldType : FieldType} {given value : Value} :
    convert fieldType given = some value → fieldType.admits value = true
  exact {fieldType : FieldType} {value : Value} :
    fieldType.admits value = true → convert fieldType value = some value

/-- A converted value is converted to itself, as it is of the annotation already. -/
theorem Conversions.convert_again (conversions : Conversions) {fieldType : FieldType}
    {given value : Value} (converted : conversions.convert fieldType given = some value) :
    conversions.convert fieldType value = some value :=
  conversions.exact (conversions.typed converted)

/-- The conversions that accept values of the annotation only. -/
def strictConversions : Conversions where
  convert fieldType value := if fieldType.admits value then some value else none
  typed := by
    intro fieldType given value converted
    split at converted
    · rename_i admitted
      rw [← Option.some.inj converted]
      exact admitted
    · exact absurd converted.symm (Option.some_ne_none value)
  exact := fun admitted => if_pos admitted

end PyModels
