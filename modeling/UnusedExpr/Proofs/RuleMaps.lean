import UnusedExpr.Plugin

/-! # Rule maps as JSON

A setting is written in one of two forms and read in many, so each of the two has to be shown to be read back. A rule
map is read entry by entry: either every entry is a setting, and they are all put into the map in turn, or the first
entry that is none decides the error (`readFields_cases`). Hence a rule map is read back as it was, and what was read
from any object is read back from what it is written as. -/

namespace UnusedExpr

/-! ### Settings -/

theorem Severity.ofJson_toJson (s : Severity) : Severity.ofJson s.toJson = .ok s := by
  cases s <;> rfl

theorem Switch.ofName?_name (s : Switch) : Switch.ofName? s.name = some s := by
  cases s <;> rfl

theorem Options.readFields_switches (o written : Options) (switches : List Switch) :
    o.readFields (switches.map fun s => (s.name, .bool (written.get s))) =
      .ok (switches.foldl (fun o s => o.set s (written.get s)) o) := by
  induction switches generalizing o with
  | nil => rfl
  | cons s rest ih =>
    rw [List.map_cons, readFields, Switch.ofName?_name]
    exact ih _

theorem Options.ofJson_toJson (o : Options) : Options.ofJson o.toJson = .ok o := by
  rw [toJson, ofJson, readFields_switches]
  rfl

theorem Setting.ofJson_toJson (s : Setting) : Setting.ofJson s.toJson = .ok s := by
  obtain ⟨severity, options⟩ := s
  have first : readSeverity severity.toJson = .ok severity := by
    rw [readSeverity, Severity.ofJson_toJson]
    rfl
  unfold toJson
  split
  case isTrue plain =>
    have alone : ofJson severity.toJson = (readSeverity severity.toJson).map fun severity => ⟨severity, {}⟩ := by
      cases severity <;> rfl
    rw [alone, first, ← plain]
    rfl
  case isFalse =>
    have second : readOptions [options.toJson] = .ok options := by
      rw [readOptions, Options.ofJson_toJson]
      rfl
    rw [ofJson, first, second]
    rfl

/-- A value that can be read as a setting. -/
def Json.IsSetting (value : Json) : Prop :=
  ∃ setting, Setting.ofJson value = .ok setting

/-! ### Reading entry by entry -/

namespace RuleMap
variable {m n : RuleMap} {fields before : List (String × Json)} {id : String} {value : Json}

theorem readFields_of_ok {setting : Setting} (read : Setting.ofJson value = .ok setting)
    (rest : List (String × Json)) : m.readFields ((id, value) :: rest) = readFields (m.insert id setting) rest := by
  rw [readFields, read]
  rfl

theorem readFields_of_error {cause : Setting.Error} (failed : Setting.ofJson value = .error cause)
    (rest : List (String × Json)) : m.readFields ((id, value) :: rest) = .error (.setting id cause) := by
  rw [readFields, failed]
  rfl

/-- All entries are settings, or there is a first one that is none. -/
theorem readFields_cases (m : RuleMap) (fields : List (String × Json)) :
    (∃ entries : List (String × Setting),
      fields.map (fun field => (field.1, Setting.ofJson field.2)) = entries.map (fun entry => (entry.1, .ok entry.2)) ∧
      m.readFields fields = .ok (m.insertAll entries)) ∨
    ∃ before id value after cause, fields = before ++ (id, value) :: after ∧ (∀ field ∈ before, field.2.IsSetting) ∧
      Setting.ofJson value = .error cause ∧ m.readFields fields = .error (.setting id cause) := by
  induction fields generalizing m with
  | nil => exact Or.inl ⟨[], rfl, rfl⟩
  | cons field rest ih =>
    obtain ⟨id, value⟩ := field
    cases read : Setting.ofJson value with
    | error cause => exact Or.inr ⟨[], id, value, rest, cause, rfl, by simp, read, readFields_of_error read rest⟩
    | ok setting =>
      rcases ih (m.insert id setting) with ⟨entries, same, done⟩ |
        ⟨before, id', bad, after, cause, rfl, fine, failed, stops⟩
      · refine Or.inl ⟨(id, setting) :: entries, ?_, (readFields_of_ok read rest).trans done⟩
        rw [List.map_cons, List.map_cons, read, same]
      · refine Or.inr
          ⟨(id, value) :: before, id', bad, after, cause, rfl, ?_, failed, (readFields_of_ok read _).trans stops⟩
        exact List.forall_mem_cons.mpr ⟨⟨setting, read⟩, fine⟩

theorem readFields_of_bad {cause : Setting.Error} (fine : ∀ field ∈ before, field.2.IsSetting)
    (failed : Setting.ofJson value = .error cause) (m : RuleMap) (after : List (String × Json)) :
    m.readFields (before ++ (id, value) :: after) = .error (.setting id cause) := by
  induction before generalizing m with
  | nil => exact readFields_of_error failed after
  | cons field rest ih =>
    obtain ⟨⟨setting, read⟩, others⟩ := List.forall_mem_cons.mp fine
    rw [List.cons_append, readFields_of_ok read]
    exact ih others _

theorem readFields_eq_error_iff {error : Error} :
    m.readFields fields = .error error ↔
      ∃ before id value after cause, fields = before ++ (id, value) :: after ∧ (∀ field ∈ before, field.2.IsSetting) ∧
        Setting.ofJson value = .error cause ∧ error = .setting id cause := by
  constructor
  · intro stops
    rcases m.readFields_cases fields with ⟨entries, -, done⟩ |
      ⟨before, id, value, after, cause, split, fine, failed, first⟩
    · cases stops.symm.trans done
    · exact ⟨before, id, value, after, cause, split, fine, failed, Except.error.inj (stops.symm.trans first)⟩
  · rintro ⟨before, id, value, after, cause, rfl, fine, failed, rfl⟩
    exact readFields_of_bad fine failed m after

/-- What is read from an object holds the settings of its entries. -/
theorem exists_entries_of_readFields (read : m.readFields fields = .ok n) :
    ∃ entries : List (String × Setting),
      fields.map (fun field => (field.1, Setting.ofJson field.2)) = entries.map (fun entry => (entry.1, .ok entry.2)) ∧
      n = m.insertAll entries := by
  rcases m.readFields_cases fields with ⟨entries, same, done⟩ | ⟨before, id, value, after, cause, -, -, -, stops⟩
  · exact ⟨entries, same, Except.ok.inj (read.symm.trans done)⟩
  · cases read.symm.trans stops

theorem exists_readFields_iff (m : RuleMap) (fields : List (String × Json)) :
    (∃ n, m.readFields fields = .ok n) ↔ ∀ field ∈ fields, field.2.IsSetting := by
  constructor
  · rintro ⟨n, read⟩ field member
    obtain ⟨entries, same, -⟩ := exists_entries_of_readFields read
    have listed := List.mem_map_of_mem (f := fun field => (field.1, Setting.ofJson field.2)) member
    rw [same] at listed
    obtain ⟨entry, -, is⟩ := List.mem_map.mp listed
    exact ⟨entry.2, (congrArg Prod.snd is).symm⟩
  · intro fine
    rcases m.readFields_cases fields with ⟨entries, -, done⟩ | ⟨before, id, value, after, cause, rfl, -, failed, -⟩
    · exact ⟨_, done⟩
    · obtain ⟨setting, read⟩ := fine (id, value) (by simp)
      cases failed.symm.trans read

/-! ### Reading back -/

theorem readFields_written (m : RuleMap) (entries : List (String × Setting)) :
    m.readFields (entries.map fun entry => (entry.1, entry.2.toJson)) = .ok (m.insertAll entries) := by
  induction entries generalizing m with
  | nil => rfl
  | cons entry rest ih =>
    rw [List.map_cons, readFields_of_ok entry.2.ofJson_toJson]
    exact ih _

theorem ofJson_toJson (m : RuleMap) : RuleMap.ofJson m.toJson = .ok m := by
  rw [toJson, ofJson, readFields_written]
  exact congrArg Except.ok m.ofList_entries

theorem get?_toJson (m : RuleMap) (id : String) : m.toJson.get? id = (m.get? id).map Setting.toJson :=
  Assoc.lookup_map Setting.toJson m.entries id

/-- What is read from an object has its entries in their order. -/
theorem entries_of_ofJson {fields : Json.Fields} (read : RuleMap.ofJson (.object fields.entries) = .ok m) :
    fields.entries.map (fun field => (field.1, Setting.ofJson field.2)) =
      m.entries.map fun entry => (entry.1, .ok entry.2) := by
  obtain ⟨entries, same, rfl⟩ := exists_entries_of_readFields read
  have ids : Assoc.keys entries = Assoc.keys fields.entries := by
    have firsts := congrArg (List.map Prod.fst) same
    simpa [Assoc.keys, Function.comp_def] using firsts.symm
  have all : (Table.ofList entries).entries = entries := Table.entries_ofList (ids ▸ fields.distinct)
  exact same.trans (congrArg _ all.symm)

end RuleMap

/-- The rules of a preset are read back from its configuration object as they are, in their order, whatever the style
    and the plugin, and each rule is found there with its setting. Any object is read as a rule map just if all its
    entries are settings, and otherwise the first entry that is none decides the error. What was read from an object
    has its entries in their order, and is read back from what it is written as. -/
theorem ruleMap_round_trip (p : Preset) (info : Plugin.Info) (fields : List (String × Json)) :
    (∃ rules, (p.toJson info).get? "rules" = some rules ∧
      RuleMap.ofJson rules = .ok p.rules ∧
      (∀ id, (rules.get? id).map Setting.ofJson = (p.rule? id).map .ok) ∧
      ∀ (style : Preset.Style) (other : Plugin.Info),
        ((⟨style, p.rules⟩ : Preset).toJson other).get? "rules" = some rules) ∧
    ((∃ m, RuleMap.ofJson (.object fields) = .ok m) ↔ ∀ field ∈ fields, field.2.IsSetting) ∧
    (∀ error, RuleMap.ofJson (.object fields) = .error error ↔
      ∃ before id value after cause, fields = before ++ (id, value) :: after ∧ (∀ field ∈ before, field.2.IsSetting) ∧
        Setting.ofJson value = .error cause ∧ error = .setting id cause) ∧
    (∀ id cause, (RuleMap.Error.setting id cause).message = cause.message) ∧
    (∀ m, RuleMap.ofJson (.object fields) = .ok m → RuleMap.ofJson m.toJson = .ok m) ∧
    ∀ (object : Json.Fields) m, RuleMap.ofJson (.object object.entries) = .ok m →
      object.entries.map (fun field => (field.1, Setting.ofJson field.2)) =
        m.entries.map fun entry => (entry.1, .ok entry.2) := by
  refine ⟨⟨p.rules.toJson, rfl, p.rules.ofJson_toJson, ?_, fun _ _ => rfl⟩, RuleMap.exists_readFields_iff _ fields,
    fun error => RuleMap.readFields_eq_error_iff, fun _ _ => rfl, fun m _ => m.ofJson_toJson, ?_⟩
  · intro id
    rw [RuleMap.get?_toJson, Option.map_map]
    simp only [Function.comp_def, Setting.ofJson_toJson]
    rfl
  · intro object m read
    exact RuleMap.entries_of_ofJson read

/-- A level, and a name with options, are read as two settings and read again from how these are written. -/
theorem ruleMap_of_two_rules :
    ∃ m, RuleMap.ofJson (.object [("b", .number (.int 0)),
        ("a", .array [.string "warn", .object [("allowTernary", .bool true)]])]) = .ok m ∧
      RuleMap.ofJson m.toJson = .ok m ∧
      [("b", .ok .off), ("a", .ok (.warn { allowTernary := true }))] =
        m.entries.map fun entry => (entry.1, (.ok entry.2 : Except Setting.Error Setting)) := by
  let object : Json.Fields := ⟨[("b", .number (.int 0)),
    ("a", .array [.string "warn", .object [("allowTernary", .bool true)]])], by decide⟩
  obtain ⟨-, accepted, -, -, again, kept⟩ :=
    ruleMap_round_trip (.recommended .flat) ⟨"chai-friendly", "1.1.0"⟩ object.entries
  obtain ⟨m, read⟩ := accepted.mpr (by simpa [object] using ⟨⟨.off, rfl⟩, .warn { allowTernary := true }, rfl⟩)
  exact ⟨m, read, again m read, kept object m read⟩

end UnusedExpr
