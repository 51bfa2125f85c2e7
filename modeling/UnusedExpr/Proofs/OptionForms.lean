import UnusedExpr.Proofs.RuleMaps

/-! # The forms of options

Options are given by an object, whose fields name switches, or by an array, whose elements give the switches in order.
Both are read from the front: what has been read only decides how the rest is read on (`readFields_append`,
`readElements_append`), so the first entry that is no switch with a boolean decides the error, whatever the others
are. `Options.Denotes` says which values are options, and which options they are; `Options.Fault` says what is wrong
with all others. -/

namespace UnusedExpr

/-- A result is described by two predicates that are right about it and of which one always applies. -/
theorem result_iff {ε α : Type} {result : Except ε α} {Good : α → Prop} {Bad : ε → Prop}
    (succeeds : ∀ a, Good a → result = .ok a) (fails : ∀ e, Bad e → result = .error e)
    (total : (∃ a, Good a) ∨ ∃ e, Bad e) : (∀ a, result = .ok a ↔ Good a) ∧ ∀ e, result = .error e ↔ Bad e := by
  rcases total with ⟨a, good⟩ | ⟨e, bad⟩
  · have is := succeeds a good
    refine ⟨fun b => ⟨?_, succeeds b⟩, fun e => ⟨?_, fails e⟩⟩
    · intro same
      exact Except.ok.inj (is.symm.trans same) ▸ good
    · intro other
      cases is.symm.trans other
  · have is := fails e bad
    refine ⟨fun a => ⟨?_, succeeds a⟩, fun e' => ⟨?_, fails e'⟩⟩
    · intro other
      cases is.symm.trans other
    · intro same
      exact Except.error.inj (is.symm.trans same) ▸ bad

namespace Switch
variable {s t : Switch} {key : String}

theorem name_injective (same : s.name = t.name) : s = t := by
  have found := congrArg ofName? same
  rw [ofName?_name, ofName?_name] at found
  exact Option.some.inj found

theorem ofName?_eq_none (unknown : ∀ s : Switch, key ≠ s.name) : ofName? key = none := by
  rw [ofName?, List.find?_eq_none]
  intro s _ same
  exact unknown s (beq_iff_eq.mp same).symm

end Switch

namespace Options
variable {o : Options} {fields before after : List (String × Json)} {key : String} {value : Json}

/-- A field that names a switch and has a boolean. -/
def SetsSwitch (field : String × Json) : Prop :=
  (∃ s : Switch, field.1 = s.name) ∧ ∃ value, field.2 = .bool value

/-- Each switch has the value at its name, the last one if the name is repeated, and is off if its name is absent. -/
structure HoldsFields (o : Options) (fields : List (String × Json)) : Prop where
  value : ∀ s value before after, fields = before ++ (Switch.name s, .bool value) :: after →
    s.name ∉ Assoc.keys after → o.get s = value
  absent : ∀ s : Switch, s.name ∉ Assoc.keys fields → o.get s = false

/-- A value that is read as options: an object of switches with booleans, or an array of at most four booleans. -/
inductive Denotes : Json → Options → Prop where
  | fields {o : Options} {fields : List (String × Json)} (known : ∀ field ∈ fields, SetsSwitch field)
      (held : o.HoldsFields fields) : Denotes (.object fields) o
  | elements (values : List Bool) (few : values.length ≤ 4) :
      Denotes (.array (values.map .bool))
        ⟨values.getD 0 false, values.getD 1 false, values.getD 2 false, values.getD 3 false⟩

/-- What is wrong with a value that is not read as options. In an object, this is the first field that is no switch
    with a boolean; in an array, the first of four elements that is no boolean, and only then its length. -/
inductive Fault : Json → Error → Prop where
  | unknownKey {before after : List (String × Json)} {key : String} {value : Json}
      (known : ∀ field ∈ before, SetsSwitch field) (unknown : ∀ s : Switch, key ≠ s.name) :
      Fault (.object (before ++ (key, value) :: after)) ⟨.key key, .unknownKey key⟩
  | fieldNotBoolean {before after : List (String × Json)} {s : Switch} {value : Json}
      (known : ∀ field ∈ before, SetsSwitch field) (other : ∀ b, value ≠ .bool b) :
      Fault (.object (before ++ (s.name, value) :: after)) ⟨.key s.name, .notBoolean value⟩
  | elementNotBoolean {values : List Bool} {value : Json} {after : List Json} (early : values.length < 4)
      (other : ∀ b, value ≠ .bool b) :
      Fault (.array (values.map .bool ++ value :: after)) ⟨.index values.length, .notBoolean value⟩
  | tooLong {values : List Bool} {value : Json} {after : List Json} (full : values.length = 4) :
      Fault (.array (values.map .bool ++ value :: after)) ⟨.whole, .tooLong (after.length + 5)⟩
  | otherKind {value : Json} (noObject : ∀ fields, value ≠ .object fields)
      (noArray : ∀ elements, value ≠ .array elements) : Fault value ⟨.whole, .notOptions value⟩

/-! ### Fields -/

theorem readSwitch_of_notBoolean (other : ∀ b, value ≠ .bool b) (place : Place) :
    readSwitch place value = .error ⟨place, .notBoolean value⟩ := by
  cases value with
  | bool b => exact absurd rfl (other b)
  | _ => rfl

theorem readFields_switch (o : Options) (s : Switch) (b : Bool) (rest : List (String × Json)) :
    o.readFields ((s.name, .bool b) :: rest) = (o.set s b).readFields rest := by
  rw [readFields, Switch.ofName?_name]
  rfl

theorem readFields_unknownKey (unknown : ∀ s : Switch, key ≠ s.name) (o : Options) (rest : List (String × Json)) :
    o.readFields ((key, value) :: rest) = .error ⟨.key key, .unknownKey key⟩ := by
  rw [readFields, Switch.ofName?_eq_none unknown]

theorem readFields_notBoolean (other : ∀ b, value ≠ .bool b) (o : Options) (s : Switch)
    (rest : List (String × Json)) :
    o.readFields ((s.name, value) :: rest) = .error ⟨.key s.name, .notBoolean value⟩ := by
  rw [readFields, Switch.ofName?_name]
  dsimp only
  rw [readSwitch_of_notBoolean other]
  rfl

/-- Fields that set switches are read into options that hold them on top of those before, from which the other fields
    are read on. -/
theorem readFields_append (known : ∀ field ∈ before, SetsSwitch field) (o : Options) :
    ∃ read : Options, (∀ rest, o.readFields (before ++ rest) = read.readFields rest) ∧
      (∀ s value front back, before = front ++ (Switch.name s, .bool value) :: back → s.name ∉ Assoc.keys back →
        read.get s = value) ∧
      ∀ s : Switch, s.name ∉ Assoc.keys before → read.get s = o.get s := by
  induction before generalizing o with
  | nil => exact ⟨o, fun _ => rfl, by simp, fun _ _ => rfl⟩
  | cons field before ih =>
    obtain ⟨key, value⟩ := field
    obtain ⟨⟨⟨t, rfl⟩, b, rfl⟩, others⟩ := List.forall_mem_cons.mp known
    obtain ⟨read, reads, values, absent⟩ := ih others (o.set t b)
    refine ⟨read, ?_, ?_, ?_⟩
    · intro rest
      rw [List.cons_append, readFields_switch, reads]
    · intro s value front back split last
      cases front with
      | nil =>
        obtain ⟨head, rfl⟩ := List.cons.inj split
        obtain ⟨same, is⟩ := Prod.mk.inj head
        obtain rfl := Switch.name_injective same
        obtain rfl := Json.bool.inj is
        rw [absent t last, get_set_self]
      | cons _ front => exact values s value front back (List.cons.inj split).2 last
    · intro s missing
      have apart := not_or.mp (mt List.mem_cons.mpr missing)
      have different : s ≠ t := fun same => apart.1 (congrArg Switch.name same)
      rw [absent s apart.2, get_set_of_ne different]

theorem readFields_of_known (known : ∀ field ∈ fields, SetsSwitch field) :
    ∃ o : Options, readFields {} fields = .ok o ∧ o.HoldsFields fields := by
  obtain ⟨o, reads, values, absent⟩ := readFields_append known {}
  refine ⟨o, ?_, values, ?_⟩
  · rw [← List.append_nil fields, reads]
    rfl
  · intro s missing
    rw [absent s missing]
    cases s <;> rfl

theorem HoldsFields.unique {p : Options} (known : ∀ field ∈ fields, SetsSwitch field) (one : o.HoldsFields fields)
    (other : p.HoldsFields fields) : o = p := by
  apply ext_get
  intro s
  by_cases present : s.name ∈ Assoc.keys fields
  · obtain ⟨before, value, after, split, last⟩ := Assoc.exists_last_of_mem_keys present
    obtain ⟨-, b, rfl⟩ := known (s.name, value) (by rw [split]; simp)
    rw [one.value s b before after split last, other.value s b before after split last]
  · rw [one.absent s present, other.absent s present]

/-- All fields set switches, or there is a first one that sets none. -/
theorem known_or_first (fields : List (String × Json)) :
    (∀ field ∈ fields, SetsSwitch field) ∨
    ∃ before field after, fields = before ++ field :: after ∧ (∀ field ∈ before, SetsSwitch field) ∧
      ¬SetsSwitch field := by
  induction fields with
  | nil => exact Or.inl (by simp)
  | cons field rest ih =>
    by_cases sets : SetsSwitch field
    · rcases ih with all | ⟨before, bad, after, rfl, known, fails⟩
      · exact Or.inl (List.forall_mem_cons.mpr ⟨sets, all⟩)
      · exact Or.inr ⟨field :: before, bad, after, rfl, List.forall_mem_cons.mpr ⟨sets, known⟩, fails⟩
    · exact Or.inr ⟨[], field, rest, rfl, by simp, sets⟩

/-! ### Elements -/

/-- Sets several switches in turn. -/
def setAll (o : Options) (entries : List (Switch × Bool)) : Options :=
  entries.foldl (fun o entry => o.set entry.1 entry.2) o

theorem readElements_no_switch (o : Options) (index : Nat) (elements : List Json) :
    o.readElements index [] elements = .ok (o, elements.length) := by
  cases elements <;> rfl

theorem readElements_nil (o : Options) (index : Nat) (switches : List Switch) :
    o.readElements index switches [] = .ok (o, 0) := by
  cases switches <;> rfl

/-- Booleans are read into the first switches, and the other elements are read into the rest of them. -/
theorem readElements_append (switches : List Switch) (values : List Bool) (few : values.length ≤ switches.length)
    (o : Options) (index : Nat) (rest : List Json) :
    o.readElements index switches (values.map .bool ++ rest) =
      (o.setAll (switches.zip values)).readElements (index + values.length) (switches.drop values.length) rest := by
  induction values generalizing switches o index with
  | nil => simp [setAll]
  | cons b values ih =>
    cases switches with
    | nil => simp at few
    | cons s switches =>
      have next := ih switches (Nat.le_of_succ_le_succ few) (o.set s b) (index + 1)
      rw [Nat.add_right_comm, Nat.add_assoc] at next
      exact next

theorem setAll_zip_all {values : List Bool} (few : values.length ≤ 4) :
    setAll {} (Switch.all.zip values) =
      ⟨values.getD 0 false, values.getD 1 false, values.getD 2 false, values.getD 3 false⟩ := by
  rcases values with _ | ⟨a, _ | ⟨b, _ | ⟨c, _ | ⟨d, _ | ⟨e, rest⟩⟩⟩⟩⟩
  case cons.cons.cons.cons.cons =>
    simp only [List.length_cons] at few
    omega
  all_goals rfl

/-- An array starts with some booleans, which are all of it or stand before an element that is none. -/
theorem exists_booleans (elements : List Json) :
    ∃ (values : List Bool) (rest : List Json), elements = values.map .bool ++ rest ∧
      ∀ value after, rest = value :: after → ∀ b, value ≠ .bool b := by
  induction elements with
  | nil => exact ⟨[], [], rfl, by simp⟩
  | cons element rest ih =>
    by_cases boolean : ∃ b, element = .bool b
    · obtain ⟨b, rfl⟩ := boolean
      obtain ⟨values, rest, rfl, stops⟩ := ih
      exact ⟨b :: values, rest, rfl, stops⟩
    · refine ⟨[], element :: rest, rfl, ?_⟩
      rintro value after split b rfl
      exact boolean ⟨b, (List.cons.inj split).1⟩

/-! ### Values -/

theorem ofJson_of_denotes {v : Json} (denotes : Denotes v o) : ofJson v = .ok o := by
  cases denotes with
  | fields known held =>
    obtain ⟨read, done, holds⟩ := readFields_of_known known
    rw [held.unique known holds]
    exact done
  | elements values few =>
    have read := readElements_append Switch.all values few {} 0 []
    rw [List.append_nil, setAll_zip_all few, readElements_nil] at read
    rw [ofJson, read]
    rfl

theorem ofJson_of_fault {v : Json} {e : Error} (fault : Fault v e) : ofJson v = .error e := by
  cases fault with
  | unknownKey known unknown =>
    obtain ⟨read, reads, -⟩ := readFields_append known {}
    rw [ofJson, reads, readFields_unknownKey unknown]
  | fieldNotBoolean known other =>
    obtain ⟨read, reads, -⟩ := readFields_append known {}
    rw [ofJson, reads, readFields_notBoolean other]
  | @elementNotBoolean values value after early other =>
    have read := readElements_append Switch.all values (Nat.le_of_lt early) {} 0 (value :: after)
    have remain : Switch.all.drop values.length ≠ [] := by
      rw [ne_eq, List.drop_eq_nil_iff]
      exact Nat.not_le_of_lt early
    obtain ⟨s, switches, split⟩ := List.exists_cons_of_ne_nil remain
    rw [split, readElements, readSwitch_of_notBoolean other, Nat.zero_add] at read
    rw [ofJson, read]
    rfl
  | @tooLong values value after full =>
    have read := readElements_append Switch.all values (Nat.le_of_eq full) {} 0 (value :: after)
    have none : Switch.all.drop values.length = [] := List.drop_eq_nil_iff.mpr (Nat.le_of_eq full.symm)
    have length : (values.map Json.bool ++ value :: after).length = after.length + 5 := by
      rw [List.length_append, List.length_map, full, List.length_cons, Nat.add_comm]
    rw [none, readElements_no_switch] at read
    rw [ofJson, read, length]
    rfl
  | otherKind noObject noArray =>
    cases v with
    | object fields => exact absurd rfl (noObject fields)
    | array elements => exact absurd rfl (noArray elements)
    | _ => rfl

theorem denotes_or_fault (v : Json) : (∃ o, Denotes v o) ∨ ∃ e, Fault v e := by
  cases v with
  | object fields =>
    rcases known_or_first fields with known | ⟨before, ⟨key, value⟩, after, rfl, known, fails⟩
    · obtain ⟨o, -, held⟩ := readFields_of_known known
      exact Or.inl ⟨o, .fields known held⟩
    · by_cases named : ∃ s : Switch, key = s.name
      · obtain ⟨s, rfl⟩ := named
        have other : ∀ b, value ≠ .bool b := fun b is => fails ⟨⟨s, rfl⟩, b, is⟩
        exact Or.inr ⟨_, .fieldNotBoolean known other⟩
      · exact Or.inr ⟨_, .unknownKey known (not_exists.mp named)⟩
  | array elements =>
    obtain ⟨values, rest, rfl, stops⟩ := exists_booleans elements
    rcases Nat.lt_or_ge 4 values.length with many | few
    · -- The fifth boolean is one too many, whatever follows it.
      have split : values = values.take 4 ++ values[4] :: values.drop 5 := by
        rw [List.getElem_cons_drop, List.take_append_drop]
      rw [split, List.map_append, List.map_cons, List.append_assoc, List.cons_append]
      exact Or.inr ⟨_, .tooLong (List.length_take_of_le (Nat.le_of_lt many))⟩
    · cases rest with
      | nil =>
        rw [List.append_nil]
        exact Or.inl ⟨_, .elements values few⟩
      | cons value after =>
        rcases Nat.lt_or_eq_of_le few with early | full
        · exact Or.inr ⟨_, .elementNotBoolean early (stops value after rfl)⟩
        · exact Or.inr ⟨_, .tooLong full⟩
  | _ => exact Or.inr ⟨_, .otherKind (by simp) (by simp)⟩

/-- Reading gives the options that a value denotes, or its fault. -/
theorem ofJson_iff (v : Json) :
    (∀ o, ofJson v = .ok o ↔ Denotes v o) ∧ ∀ e, ofJson v = .error e ↔ Fault v e :=
  result_iff (fun _ => ofJson_of_denotes) (fun _ => ofJson_of_fault) (denotes_or_fault v)

theorem Denotes.perm {fields : Json.Fields} {fields' : List (String × Json)}
    (denotes : Denotes (.object fields.entries) o) (reordered : fields.entries.Perm fields') :
    Denotes (.object fields') o := by
  cases denotes with
  | fields known held =>
    refine .fields (fun field member => known field (reordered.mem_iff.mpr member)) ⟨?_, ?_⟩
    · rintro s value front back rfl -
      have member : (s.name, Json.bool value) ∈ fields.entries := reordered.mem_iff.mpr (by simp)
      obtain ⟨before, after, split⟩ := List.append_of_mem member
      exact held.value s value before after split (Table.notMem_of_split split).2
    · intro s missing
      exact held.absent s fun present => missing ((reordered.map Prod.fst).mem_iff.mp present)

end Options

/-- A value is read as the options that it denotes, and otherwise fails with its first fault. The order of an object's
    fields does not matter to what it denotes. The message about a fault gives its path: the key of the field, the
    index of the element in brackets, or a point for the value as a whole. -/
theorem options_read_exactly (v : Json) :
    (∀ o, Options.ofJson v = .ok o ↔ Options.Denotes v o) ∧
    (∀ e, Options.ofJson v = .error e ↔ Options.Fault v e) ∧
    (∀ (fields : Json.Fields) fields' o, v = .object fields.entries → fields.entries.Perm fields' →
      Options.ofJson v = .ok o → Options.ofJson (.object fields') = .ok o) ∧
    (∀ e, Options.ofJson v = .error e →
      e.message = "invalid options at `" ++ e.place.text ++ "`: " ++ e.problem.message) ∧
    (∀ key, (Options.Place.key key).text = key) ∧
    (∀ i : Nat, (Options.Place.index i).text = "[" ++ toString i ++ "]") ∧
    Options.Place.whole.text = "." := by
  obtain ⟨succeeds, fails⟩ := Options.ofJson_iff v
  refine ⟨succeeds, fails, ?_, fun _ _ => rfl, fun _ => rfl, ?_, rfl⟩
  · rintro fields fields' o rfl reordered read
    exact Options.ofJson_of_denotes (((succeeds o).mp read).perm reordered)
  · intro i
    rw [Options.Place.text, Number.text_natCast]

/-- Two fields give the same options in either order, and of two bad fields the first is named. -/
theorem options_read_of_two_fields :
    Options.ofJson (.object [("enforceForJSX", .bool true), ("allowTernary", .bool false)]) =
      .ok { enforceForJsx := true } ∧
    Options.ofJson (.object [("allowTernary", .bool false), ("enforceForJSX", .bool true)]) =
      .ok { enforceForJsx := true } ∧
    ∃ e, Options.ofJson (.object [("allowTernary", .null), ("allowAll", .bool true)]) = .error e ∧
      e.message = "invalid options at `allowTernary`: invalid type: null, expected a boolean" := by
  let fields : Json.Fields := ⟨[("enforceForJSX", .bool true), ("allowTernary", .bool false)], by decide⟩
  obtain ⟨-, -, reordered, -⟩ := options_read_exactly (.object fields.entries)
  obtain ⟨-, stops, -, told, named, -⟩ :=
    options_read_exactly (.object [("allowTernary", .null), ("allowAll", .bool true)])
  have fault : Options.Fault (.object [("allowTernary", .null), ("allowAll", .bool true)])
      ⟨.key "allowTernary", .notBoolean .null⟩ :=
    @Options.Fault.fieldNotBoolean [] [("allowAll", .bool true)] .ternary .null (by simp) (by simp)
  refine ⟨rfl, reordered fields _ _ rfl (.swap _ _ _) rfl, _, (stops _).mpr fault, ?_⟩
  rw [told _ ((stops _).mpr fault), named]
  decide

end UnusedExpr
