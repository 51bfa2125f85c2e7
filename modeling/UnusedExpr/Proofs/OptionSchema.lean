import UnusedExpr.Proofs.SettingForms

/-! # The published schema of the options

The schema that the rule publishes and the reader of the options agree on all values but arrays. The schema accepts an
object whose fields all set switches, as the reader does (`accepts_optionsSchema_iff`), and accepts no array, where the
reader takes at most four booleans for the switches in order. -/

namespace UnusedExpr

/-! ### What a schema accepts -/

namespace Schema

/-- A field has to conform to the property of its name, and needs an open schema if there is none. -/
theorem acceptsField_eq (properties : List (String × Schema)) (isOpen : Bool) (field : String × Json) :
    acceptsField properties isOpen field = (properties.lookup field.1).elim isOpen (·.accepts field.2) := by
  induction properties with
  | nil => rfl
  | cons property rest ih =>
    obtain ⟨key, schema⟩ := property
    rw [acceptsField, List.lookup_cons, ih]
    by_cases same : field.1 = key
    · rw [if_pos same, beq_iff_eq.mpr same]
      rfl
    · rw [if_neg same, beq_false_of_ne same]

theorem accepts_boolean_iff {fallback : Option Bool} {v : Json} :
    (boolean fallback).accepts v = true ↔ ∃ b, v = .bool b := by
  cases v <;> simp [accepts]

end Schema

/-! ### The schema of the options -/

namespace Rule

/-- The properties are the switches, and no others are allowed. -/
theorem optionsSchema_eq :
    optionsSchema =
      .object (Switch.all.map fun s => (s.name, .boolean (if s = .jsx then some false else none))) false := rfl

theorem lookup_map_name {α : Type} (f : Switch → α) (switches : List Switch) (key : String) :
    (switches.map fun s => (s.name, f s)).lookup key = (switches.find? fun s => s.name == key).map f := by
  induction switches with
  | nil => rfl
  | cons s rest ih =>
    rw [List.map_cons, List.lookup_cons, List.find?_cons, ih, BEq.comm]
    cases s.name == key <;> rfl

theorem acceptsField_optionsSchema_iff {field : String × Json} :
    Schema.acceptsField (Switch.all.map fun s => (s.name, .boolean (if s = .jsx then some false else none))) false
      field = true ↔ Options.SetsSwitch field := by
  obtain ⟨key, value⟩ := field
  have found := lookup_map_name (fun s => Schema.boolean (if s = .jsx then some false else none)) Switch.all key
  rw [Schema.acceptsField_eq, found]
  change ((Switch.ofName? key).map _).elim _ _ = true ↔ _
  constructor
  · intro accepted
    cases named : Switch.ofName? key with
    | none =>
      rw [named] at accepted
      cases accepted
    | some s =>
      rw [named] at accepted
      have is : s.name = key := by simpa using List.find?_some named
      exact ⟨⟨s, is.symm⟩, Schema.accepts_boolean_iff.mp accepted⟩
  · rintro ⟨⟨s, rfl⟩, boolean⟩
    rw [Switch.ofName?_name]
    exact Schema.accepts_boolean_iff.mpr boolean

theorem accepts_optionsSchema_iff {v : Json} :
    optionsSchema.accepts v = true ↔ ∃ fields, v = .object fields ∧ ∀ field ∈ fields, Options.SetsSwitch field := by
  rw [optionsSchema_eq]
  cases v with
  | object fields => simp [Schema.accepts, acceptsField_optionsSchema_iff]
  | _ => simp [Schema.accepts]

end Rule

/-! ### The schema and the reader -/

/-- An array of at most four booleans. -/
def Json.IsSwitchArray (v : Json) : Prop :=
  ∃ values : List Bool, values.length ≤ 4 ∧ v = .array (values.map .bool)

theorem Options.exists_ofJson_iff {v : Json} :
    (∃ o, Options.ofJson v = .ok o) ↔ Rule.optionsSchema.accepts v = true ∨ v.IsSwitchArray := by
  rw [Rule.accepts_optionsSchema_iff]
  constructor
  · rintro ⟨o, read⟩
    cases ((ofJson_iff v).1 o).mp read with
    | @fields o fields known held => exact Or.inl ⟨fields, rfl, known⟩
    | elements values few => exact Or.inr ⟨values, few, rfl⟩
  · rintro (⟨fields, rfl, known⟩ | ⟨values, few, rfl⟩)
    · obtain ⟨o, read, -⟩ := readFields_of_known known
      exact ⟨o, read⟩
    · exact ⟨_, ofJson_of_denotes (.elements values few)⟩

/-- After a severity, a value is taken just if it is read as options. -/
theorem Setting.exists_ofJson_pair_iff {first v : Json} {s : Severity} (severity : Severity.ofJson first = .ok s) :
    (∃ setting, Setting.ofJson (.array [first, v]) = .ok setting) ↔ ∃ o, Options.ofJson v = .ok o := by
  rw [ofJson_of_first (Severity.ofJson_eq_ok_iff.mp severity), readOptions]
  cases Options.ofJson v with
  | ok o => exact ⟨fun _ => ⟨o, rfl⟩, fun _ => ⟨⟨s, o⟩, rfl⟩⟩
  | error cause =>
    constructor
    · rintro ⟨_, other⟩
      cases other
    · rintro ⟨_, other⟩
      cases other

/-- Options, alone or after a severity, are read just if the published schema accepts them or if they are an array of
    at most four booleans, which the schema never accepts. -/
theorem options_read_iff_schema_or_array {schema : Schema} (published : Rule.description.schemas = [schema])
    (v : Json) :
    ((∃ o, Options.ofJson v = .ok o) ↔ schema.accepts v = true ∨ v.IsSwitchArray) ∧
    (∀ first s, Severity.ofJson first = .ok s →
      ((∃ setting, Setting.ofJson (.array [first, v]) = .ok setting) ↔
        schema.accepts v = true ∨ v.IsSwitchArray)) ∧
    ¬(schema.accepts v = true ∧ v.IsSwitchArray) := by
  obtain rfl : Rule.optionsSchema = schema := (List.cons.inj published).1
  refine ⟨Options.exists_ofJson_iff, ?_, ?_⟩
  · intro first s severity
    rw [Setting.exists_ofJson_pair_iff severity]
    exact Options.exists_ofJson_iff
  · rintro ⟨accepted, values, -, rfl⟩
    obtain ⟨fields, other, -⟩ := Rule.accepts_optionsSchema_iff.mp accepted
    cases other

/-- An object that the schema accepts is read, alone and after a level. -/
theorem options_read_of_accepted_object :
    (∃ o, Options.ofJson (.object [("allowTernary", .bool true)]) = .ok o) ∧
    ∃ setting, Setting.ofJson (.array [.number (.int 1), .object [("allowTernary", .bool true)]]) = .ok setting := by
  obtain ⟨alone, after, -⟩ := options_read_iff_schema_or_array rfl (.object [("allowTernary", .bool true)])
  have accepted : Rule.optionsSchema.accepts (.object [("allowTernary", .bool true)]) = true := by decide
  exact ⟨alone.mpr (Or.inl accepted), (after (.number (.int 1)) .warn rfl).mpr (Or.inl accepted)⟩

/-- The schema refuses an array that is read as options, alone and after a severity. -/
theorem switch_array_read_outside_schema :
    Rule.description.schemas = [Rule.optionsSchema] ∧
    Rule.optionsSchema.accepts (.array [.bool true]) = false ∧
    Options.ofJson (.array [.bool true]) = .ok { allowShortCircuit := true } ∧
    Setting.ofJson (.array [.string "error", .array [.bool true]]) = .ok (.error { allowShortCircuit := true }) :=
  ⟨rfl, rfl, rfl, rfl⟩

end UnusedExpr
