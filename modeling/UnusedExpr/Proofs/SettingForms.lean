import UnusedExpr.Proofs.OptionForms

/-! # The forms of settings

A setting is a severity, alone or as the first element of an array, where a value for the options may follow it.
`Setting.Denotes` says which values are settings, and which settings they are; `Setting.Fault` says what is wrong with
all others, in the order in which a value is looked at. A setting that is read on its own or as an entry of a rule map
is accepted just if it is one, and fails with the same text. -/

namespace UnusedExpr

/-! ### Severities -/

/-- A value that is read as a severity: its name, or its level as an integer. -/
inductive Severity.Denotes : Json → Severity → Prop where
  | name (s : Severity) : Denotes (.string s.name) s
  | level (s : Severity) : Denotes (.number (.int s.level)) s

theorem elim_eq_ok_iff {ε α : Type} {found : Option α} {e : ε} {a : α} :
    found.elim (.error e) .ok = Except.ok a ↔ found = some a := by
  cases found <;> simp

theorem Severity.ofJson_eq_ok_iff {v : Json} {s : Severity} : ofJson v = .ok s ↔ Denotes v s := by
  constructor
  · intro read
    cases v with
    | string name =>
      have found : ofName? name = some s := elim_eq_ok_iff.mp read
      obtain rfl : s.name = name := by simpa using List.find?_some found
      exact .name s
    | number level =>
      have found : ofLevel? level = some s := elim_eq_ok_iff.mp read
      obtain rfl : level = .int s.level := by simpa using List.find?_some found
      exact .level s
    | _ => cases read
  · intro denotes
    cases denotes <;> cases s <;> rfl

namespace Setting
variable {v first : Json} {s : Severity}

/-! ### Settings -/

/-- A value that is read as a setting. -/
inductive Denotes : Json → Setting → Prop where
  | alone {v : Json} {s : Severity} (severity : Severity.Denotes v s) : Denotes v ⟨s, {}⟩
  | single {v : Json} {s : Severity} (severity : Severity.Denotes v s) : Denotes (.array [v]) ⟨s, {}⟩
  | pair {v w : Json} {s : Severity} {o : Options} (severity : Severity.Denotes v s)
      (options : Options.ofJson w = .ok o) : Denotes (.array [v, w]) ⟨s, o⟩

/-- What is wrong with a value that is not read as a setting. Options are looked at last, and only if they are the one
    value after the severity. -/
inductive Fault : Json → Error → Prop where
  | emptyArray : Fault (.array []) .emptyArray
  | alone {v : Json} {cause : Severity.Error} (noArray : ∀ elements, v ≠ .array elements)
      (failed : Severity.ofJson v = .error cause) : Fault v (.severity cause)
  | first {v : Json} {rest : List Json} {cause : Severity.Error} (failed : Severity.ofJson v = .error cause) :
      Fault (.array (v :: rest)) (.severity cause)
  | surplus {v : Json} {s : Severity} {rest : List Json} (severity : Severity.Denotes v s) (many : 1 < rest.length) :
      Fault (.array (v :: rest)) (.surplus rest.length)
  | options {v w : Json} {s : Severity} {cause : Options.Error} (severity : Severity.Denotes v s)
      (failed : Options.ofJson w = .error cause) : Fault (.array [v, w]) (.options cause)

theorem readSeverity_of_denotes (denotes : Severity.Denotes v s) : readSeverity v = .ok s := by
  rw [readSeverity, Severity.ofJson_eq_ok_iff.mpr denotes]
  rfl

theorem readSeverity_of_error {cause : Severity.Error} (failed : Severity.ofJson v = .error cause) :
    readSeverity v = .error (.severity cause) := by
  rw [readSeverity, failed]
  rfl

theorem ofJson_of_not_array (noArray : ∀ elements, v ≠ .array elements) :
    ofJson v = (readSeverity v).map fun s => ⟨s, {}⟩ := by
  cases v with
  | array elements => exact absurd rfl (noArray elements)
  | _ => rfl

theorem ofJson_of_first (denotes : Severity.Denotes first s) (rest : List Json) :
    ofJson (.array (first :: rest)) = (readOptions rest).map fun o => ⟨s, o⟩ := by
  rw [ofJson, readSeverity_of_denotes denotes]
  cases readOptions rest <;> rfl

theorem ofJson_of_denotes {setting : Setting} (denotes : Denotes v setting) : ofJson v = .ok setting := by
  cases denotes with
  | alone severity =>
    have noArray : ∀ elements, v ≠ .array elements := by cases severity <;> simp
    rw [ofJson_of_not_array noArray, readSeverity_of_denotes severity]
    rfl
  | single severity =>
    rw [ofJson_of_first severity]
    rfl
  | pair severity options =>
    rw [ofJson_of_first severity, readOptions, options]
    rfl

theorem readOptions_of_many {rest : List Json} (many : 1 < rest.length) :
    readOptions rest = .error (.surplus rest.length) := by
  rcases rest with _ | ⟨a, _ | ⟨b, more⟩⟩
  · simp at many
  · simp at many
  · rfl

theorem ofJson_of_fault {e : Error} (fault : Fault v e) : ofJson v = .error e := by
  cases fault with
  | emptyArray => rfl
  | alone noArray failed =>
    rw [ofJson_of_not_array noArray, readSeverity_of_error failed]
    rfl
  | first failed =>
    rw [ofJson, readSeverity_of_error failed]
    rfl
  | surplus severity many =>
    rw [ofJson_of_first severity, readOptions_of_many many]
    rfl
  | options severity failed =>
    rw [ofJson_of_first severity, readOptions, failed]
    rfl

theorem denotes_or_fault (v : Json) : (∃ setting, Denotes v setting) ∨ ∃ e, Fault v e := by
  by_cases array : ∃ elements, v = .array elements
  · obtain ⟨elements, rfl⟩ := array
    cases elements with
    | nil => exact Or.inr ⟨_, .emptyArray⟩
    | cons first rest =>
      cases read : Severity.ofJson first with
      | error cause => exact Or.inr ⟨_, .first read⟩
      | ok s =>
        have severity := Severity.ofJson_eq_ok_iff.mp read
        rcases rest with _ | ⟨options, _ | ⟨more, others⟩⟩
        · exact Or.inl ⟨_, .single severity⟩
        · cases second : Options.ofJson options with
          | error cause => exact Or.inr ⟨_, .options severity second⟩
          | ok o => exact Or.inl ⟨_, .pair severity second⟩
        · exact Or.inr ⟨_, .surplus severity (by simp)⟩
  · cases read : Severity.ofJson v with
    | error cause => exact Or.inr ⟨_, .alone (not_exists.mp array) read⟩
    | ok s => exact Or.inl ⟨_, .alone (Severity.ofJson_eq_ok_iff.mp read)⟩

theorem ofJson_iff (v : Json) :
    (∀ setting, ofJson v = .ok setting ↔ Denotes v setting) ∧ ∀ e, ofJson v = .error e ↔ Fault v e :=
  result_iff (fun _ => ofJson_of_denotes) (fun _ => ofJson_of_fault) (denotes_or_fault v)

theorem decode_iff (v : Json) :
    (∀ setting, decode v = .ok setting ↔ Denotes v setting) ∧
    ∀ text, decode v = .error text ↔ ∃ e, Fault v e ∧ text = e.message := by
  apply result_iff
  · intro setting denotes
    rw [decode, ofJson_of_denotes denotes]
    rfl
  · rintro text ⟨e, fault, rfl⟩
    rw [decode, ofJson_of_fault fault]
    rfl
  · rcases denotes_or_fault v with accepted | ⟨e, fault⟩
    · exact Or.inl accepted
    · exact Or.inr ⟨_, e, fault, rfl⟩

end Setting

/-! ### Settings in rule maps -/

namespace RuleMap
variable {fields : Json.Fields} {before after : List (String × Json)} {id : String} {v : Json}

theorem get?_of_ofJson {m : RuleMap} (read : RuleMap.ofJson (.object fields.entries) = .ok m) (id : String) :
    (m.get? id).map .ok = (fields.get? id).map Setting.ofJson := by
  have entries := entries_of_ofJson read
  have found := congrArg (List.lookup id) entries
  rw [Assoc.lookup_map, Assoc.lookup_map] at found
  exact found.symm

/-- An entry that is no setting decides the error, unless one before it is none either. -/
theorem decode_of_error {text : String} (fine : ∀ field ∈ before, field.2.IsSetting)
    (failed : Setting.decode v = .error text) (id : String) (after : List (String × Json)) :
    decode (.object (before ++ (id, v) :: after)) = .error text := by
  obtain ⟨e, fault, rfl⟩ := ((Setting.decode_iff v).2 text).mp failed
  rw [decode, ofJson, readFields_of_bad fine (Setting.ofJson_of_fault fault)]
  rfl

/-- Among settings, a value is read as an entry as it is read alone. -/
theorem map_get?_decode (split : fields.entries = before ++ (id, v) :: after)
    (fine : ∀ field ∈ before ++ after, field.2.IsSetting) :
    (decode (.object fields.entries)).map (·.get? id) = (Setting.decode v).map some := by
  cases alone : Setting.decode v with
  | error text =>
    rw [split, decode_of_error (fun field member => fine field (List.mem_append_left _ member)) alone]
    rfl
  | ok setting =>
    have read : Setting.ofJson v = .ok setting :=
      Setting.ofJson_of_denotes (((Setting.decode_iff v).1 setting).mp alone)
    have all : ∀ field ∈ fields.entries, field.2.IsSetting := by
      intro field member
      rw [split] at member
      rcases List.mem_append.mp member with earlier | later
      · exact fine field (List.mem_append_left _ earlier)
      · rcases List.mem_cons.mp later with rfl | later
        · exact ⟨setting, read⟩
        · exact fine field (List.mem_append_right _ later)
    obtain ⟨m, done⟩ := (exists_readFields_iff .empty fields.entries).mpr all
    have entry : fields.get? id = some v := Table.get?_of_mem (by simp [split])
    have found := get?_of_ofJson done id
    rw [entry, Option.map_some, read, Option.map_eq_some_iff] at found
    obtain ⟨held, is, same⟩ := found
    obtain rfl := Except.ok.inj same
    rw [decode, ofJson, done]
    exact congrArg Except.ok is

end RuleMap

/-- A value is read as the setting that it denotes, and otherwise fails with its one fault: an empty array, a bad
    severity, more than one value after it, bad options. Where only the texts of errors are kept the same values are
    accepted, with the same texts. This holds for a value alone and for an entry of a rule map, where the first entry
    that is no setting decides. -/
theorem setting_read_exactly (v : Json) :
    (∀ s, Setting.ofJson v = .ok s ↔ Setting.Denotes v s) ∧
    (∀ e, Setting.ofJson v = .error e ↔ Setting.Fault v e) ∧
    ((∃ s, Setting.Denotes v s) ∨ ∃ e, Setting.Fault v e ∧ ∀ other, Setting.Fault v other → other = e) ∧
    Setting.Error.emptyArray.message = "rule setting arrays must start with a severity" ∧
    (∀ cause, (Setting.Error.severity cause).message = cause.message) ∧
    (∀ count : Nat, (Setting.Error.surplus count).message =
      "expected at most one options object after the severity, got " ++ toString count) ∧
    (∀ cause, (Setting.Error.options cause).message = cause.message) ∧
    (∀ s, Setting.decode v = .ok s ↔ Setting.Denotes v s) ∧
    (∀ text, Setting.decode v = .error text ↔ ∃ e, Setting.Fault v e ∧ text = e.message) ∧
    (∀ (fields : Json.Fields) before id after, fields.entries = before ++ (id, v) :: after →
      (∀ field ∈ before ++ after, field.2.IsSetting) →
      (RuleMap.decode (.object fields.entries)).map (·.get? id) = (Setting.decode v).map some) ∧
    ∀ before id after text, (∀ field ∈ before, field.2.IsSetting) → Setting.decode v = .error text →
      RuleMap.decode (.object (before ++ (id, v) :: after)) = .error text := by
  obtain ⟨succeeds, fails⟩ := Setting.ofJson_iff v
  obtain ⟨decodes, tells⟩ := Setting.decode_iff v
  refine ⟨succeeds, fails, ?_, rfl, fun _ => rfl, ?_, fun _ => rfl, decodes, tells, ?_, ?_⟩
  · rcases Setting.denotes_or_fault v with accepted | ⟨e, fault⟩
    · exact Or.inl accepted
    · refine Or.inr ⟨e, fault, ?_⟩
      intro other also
      exact Except.error.inj (((fails other).mpr also).symm.trans ((fails e).mpr fault))
  · intro count
    exact congrArg ("expected at most one options object after the severity, got " ++ ·) (Number.text_natCast count)
  · intro fields before id after split fine
    exact RuleMap.map_get?_decode split fine
  · intro before id after text fine failed
    exact RuleMap.decode_of_error fine failed id after

/-- Between two other rules, a level with an array of options is read as it is alone. Two values after a severity are
    one too many, whatever they are and whatever the next rule is. -/
theorem setting_read_between_rules :
    (RuleMap.decode (.object [("a", .string "off"), ("b", .array [.number (.int 1), .array [.bool true]]),
      ("c", .number (.int 2))])).map (·.get? "b") = .ok (some (.warn { allowShortCircuit := true })) ∧
    RuleMap.decode (.object [("a", .string "off"), ("b", .array [.string "warn", .null, .null]), ("c", .null)]) =
      .error "expected at most one options object after the severity, got 2" := by
  obtain ⟨-, -, -, -, -, -, -, -, -, among, -⟩ :=
    setting_read_exactly (.array [.number (.int 1), .array [.bool true]])
  obtain ⟨-, -, -, -, -, counted, -, -, tells, -, stops⟩ :=
    setting_read_exactly (.array [.string "warn", .null, .null])
  have off : Json.IsSetting (.string "off") := ⟨.off, rfl⟩
  have error : Json.IsSetting (.number (.int 2)) := ⟨.error {}, rfl⟩
  have surplus : Setting.Fault (.array [.string "warn", .null, .null]) (.surplus 2) :=
    .surplus (.name .warn) (by decide)
  let fields : Json.Fields := ⟨[("a", .string "off"), ("b", .array [.number (.int 1), .array [.bool true]]),
    ("c", .number (.int 2))], by decide⟩
  refine ⟨among fields [("a", .string "off")] "b" [("c", .number (.int 2))] rfl ?_, ?_⟩
  · simpa using ⟨off, error⟩
  · refine stops [("a", .string "off")] "b" [("c", .null)] _ ?_ ((tells _).mpr ⟨_, surplus, (counted 2).symm⟩)
    simpa using off

end UnusedExpr
