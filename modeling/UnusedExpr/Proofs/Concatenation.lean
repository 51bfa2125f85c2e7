import UnusedExpr.Proofs.Placement

/-! # Lists of statements in two parts

The report on a script or on the body of a function is that on the first statements, followed by what the later ones
get. The later ones may go on with the leading run just if all the first ones are string statements; otherwise they get
what they get after any statement that ends the run, such as an empty one (`bodySightings_append`). So what is added to
a list changes nothing for the statements before, and a string statement after the end of the run is reported. -/

namespace UnusedExpr

/-- A list that gets the report that the later statements get after the first ones. -/
def resumed (earlier later : List Stmt) : List Stmt :=
  if earlier.all Stmt.isDirectiveLike then later else .empty :: later

/-- The statements are a script, or the body of a function-like construct somewhere in the tree. -/
inductive Node.BodyAt (root : Node) (stmts : List Stmt) : Address → Prop
  | script {address : Address} (found : root.nodeAt? address = some (.script stmts)) : BodyAt root stmts address
  | function {address : Address} (held : root.FunctionBodyAt stmts address) : BodyAt root stmts address

/-! ### What the two parts show -/

theorem bodySightings_cons_of_leading {s : Stmt} (leads : s.isDirectiveLike = true) (rest : List Stmt) :
    bodySightings (s :: rest) = (Node.stmt s).sightings .leading ++ bodySightings rest := by
  rw [bodySightings, List.takeWhile_cons_of_pos leads, List.dropWhile_cons_of_pos leads, List.flatMap_cons,
    List.append_assoc]
  rfl

theorem bodySightings_cons_of_other {s : Stmt} (other : s.isDirectiveLike = false) (rest : List Stmt) :
    bodySightings (s :: rest) = (Node.stmt s).sightings .other ++ plainSightings rest := by
  rw [bodySightings_of_head]
  · rfl
  · rintro _ ⟨⟩
    exact other

theorem bodySightings_append (earlier later : List Stmt) :
    bodySightings (earlier ++ later) = bodySightings earlier ++ bodySightings (resumed earlier later) := by
  induction earlier with
  | nil => rfl
  | cons s rest ih =>
    cases leads : s.isDirectiveLike with
    | true =>
      have same : resumed (s :: rest) later = resumed rest later := by simp [resumed, leads]
      rw [List.cons_append, bodySightings_cons_of_leading leads, bodySightings_cons_of_leading leads, ih, same,
        List.append_assoc]
    | false =>
      -- The run ends here, so nothing leads from now on.
      have ended : resumed (s :: rest) later = .empty :: later := by simp [resumed, leads]
      have nothing : (Node.stmt .empty).sightings .other = [] := by
        rw [Node.sightings_eq]
        rfl
      rw [List.cons_append, bodySightings_cons_of_other leads, bodySightings_cons_of_other leads, ended,
        bodySightings_cons_of_other rfl, nothing, plainSightings, List.flatMap_append, List.append_assoc]
      rfl

/-! ### Parts of a list in a program -/

theorem Node.BodyAt.holder {root : Node} {stmts : List Stmt} {address : Address}
    (held : root.BodyAt stmts address) :
    ∃ holder, root.nodeAt? address = some holder ∧ holder.children = stmts.map .stmt ∧
      holder.holdsDirectives (root.roleAt address) = true := by
  rcases held with found | held
  · exact ⟨_, found, rfl, rfl⟩
  · obtain ⟨found, role⟩ := held.holder
    refine ⟨_, found, rfl, ?_⟩
    rw [role]
    rfl

theorem lt_length_takeWhile_append_iff {α : Type} {p : α → Bool} {l later : List α} {index : Nat}
    (inside : index < l.length) :
    index < ((l ++ later).takeWhile p).length ↔ index < (l.takeWhile p).length := by
  rw [lt_length_takeWhile_iff, lt_length_takeWhile_iff]
  refine forall_congr' fun i => imp_congr_right fun bound => ?_
  rw [List.getElem?_append_left (Nat.lt_of_le_of_lt bound inside)]

theorem length_takeWhile_append_lt {α : Type} {p : α → Bool} {l : List α} (ended : l.all p = false) (later : List α) :
    ((l ++ later).takeWhile p).length < l.length := by
  obtain ⟨x, member, stops⟩ := List.all_eq_false.mp ended
  obtain ⟨i, bound, rfl⟩ := List.getElem_of_mem member
  have short : ¬i < ((l ++ later).takeWhile p).length := by
    rw [lt_length_takeWhile_append_iff bound, lt_length_takeWhile_iff]
    intro leads
    obtain ⟨y, here, holds⟩ := leads i (Nat.le_refl i)
    rw [List.getElem?_eq_getElem bound] at here
    exact stops (Option.some.inj here ▸ holds)
  omega

namespace Program
variable {p : Program} {address : Address} {earlier later : List Stmt} {setting : Setting}

theorem lintChildren_append {node : Node} {before part rest after : List Node} (setting : Setting)
    (found : (Node.program p).nodeAt? address = some node)
    (split : node.children = before ++ (part ++ rest) ++ after) :
    p.lintChildren setting address before.length (part ++ rest).length =
      p.lintChildren setting address before.length part.length ++
        p.lintChildren setting address (before ++ part).length rest.length := by
  have first : node.children = before ++ part ++ (rest ++ after) := by simp [split]
  have second : node.children = (before ++ part) ++ rest ++ after := by simp [split]
  rw [lintChildren_eq setting found split, lintChildren_eq setting found first, lintChildren_eq setting found second,
    ← Setting.findings_append, ← List.flatMap_append, List.zipIdx_append, List.length_append]

theorem lintChildren_earlier (held : (Node.program p).BodyAt (earlier ++ later) address) (setting : Setting) :
    p.lintChildren setting address 0 earlier.length = setting.findings (bodySightings earlier) := by
  obtain ⟨holder, found, list, holds⟩ := held.holder
  have split : holder.children = [] ++ earlier.map .stmt ++ later.map .stmt := by simp [list]
  have due := lintChildren_eq setting found split
  rw [List.length_map, List.length_nil] at due
  rw [due, ← flatMap_sightings_of_leading fun _ => rfl]
  congr 1
  refine List.flatMap_congr fun x member => ?_
  -- What comes later does not change which of the first statements lead.
  have inside : x.2 < earlier.length := by simpa using List.snd_lt_of_mem_zipIdx member
  simp only [Node.childRole_of_list holds list, lt_length_takeWhile_append_iff inside]

theorem lintChildren_of_bodyAt {stmts : List Stmt} (held : (Node.program p).BodyAt stmts address) (setting : Setting) :
    p.lintChildren setting address 0 stmts.length = setting.findings (bodySightings stmts) := by
  have all : (Node.program p).BodyAt (stmts ++ []) address := by rwa [List.append_nil]
  exact lintChildren_earlier all setting

theorem lintChildren_later (held : (Node.program p).BodyAt (earlier ++ later) address) (setting : Setting) :
    p.lintChildren setting address earlier.length later.length =
      setting.findings (bodySightings (resumed earlier later)) := by
  obtain ⟨holder, found, list, -⟩ := held.holder
  have split : holder.children = [] ++ (earlier.map .stmt ++ later.map .stmt) ++ [] := by simp [list]
  have parts := lintChildren_append setting found split
  rw [← List.map_append, List.nil_append, List.length_map, List.length_map, List.length_map, List.length_nil,
    lintChildren_of_bodyAt held, lintChildren_earlier held, bodySightings_append, Setting.findings_append] at parts
  exact (List.append_cancel_left parts).symm

/-- A string statement that does not lead is reported. -/
theorem mem_violations_of_isString {span : Span} {e : Expr} (enabled : setting.severity ≠ .off)
    (stands : (Node.program p).nodeAt? address = some (.stmt (.expr span e))) (string : e.isString = true)
    (plain : (Node.program p).roleAt address ≠ .leading) :
    ∃ s ∈ p.violations setting, s.address = address ∧ s.span = span ∧ s.expr = e := by
  let s : Occurrence := ⟨span, e, address, (Node.program p).scopesAt address⟩
  have start : (Node.program p).Fits .other [] [] := trivial
  have fits : Settled ((Node.program p).roleAt address) s.scopes address := Node.fits_roleAt start stands
  have ordinary : s.isDirective = false := by
    rw [Bool.eq_false_iff, Ne, Occurrence.isDirective, fits.own]
    exact plain
  refine ⟨s, mem_violations_iff.mpr ⟨enabled, mem_occurrences_iff.mpr ⟨stands, rfl⟩, ?_⟩, rfl, rfl, rfl⟩
  exact (Sighting.isValid_of_isString string setting.options span s.isDirective).trans ordinary

theorem mem_violations_of_late_string (held : (Node.program p).BodyAt (earlier ++ later) address)
    (enabled : setting.severity ≠ .off) (ended : earlier.all Stmt.isDirectiveLike = false) {index : Nat} {span : Span}
    {e : Expr} (here : later[index]? = some (.expr span e)) (string : e.isString = true) :
    ∃ s ∈ p.violations setting, s.address = (earlier.length + index) :: address ∧ s.span = span ∧ s.expr = e := by
  obtain ⟨holder, found, list, holds⟩ := held.holder
  have stands : (Node.program p).nodeAt? ((earlier.length + index) :: address) = some (.stmt (.expr span e)) := by
    refine Node.nodeAt?_cons_eq_some.mpr ⟨holder, found, ?_⟩
    rw [list, List.getElem?_map, List.getElem?_append_right (Nat.le_add_right _ _), Nat.add_sub_cancel_left, here]
    rfl
  have short := length_takeWhile_append_lt ended later
  have late : (Node.program p).roleAt ((earlier.length + index) :: address) = .other := by
    rw [Node.roleAt_cons _ found, Node.childRole_of_list holds list, if_neg (by omega)]
  exact mem_violations_of_isString enabled stands string (by simp [late])

end Program

/-- The report on a list of statements is that on the first ones, followed by that on the later ones as a list of their
    own, which starts with an empty statement if the first ones end the leading run. This holds of scripts and of bodies
    of functions, wherever they are. There the first statements get what they get without the later ones; and once the
    run has ended, every string statement of the list is reported. -/
theorem lint_append (earlier later : List Stmt) (setting : Setting) :
    (Program.script (earlier ++ later)).lint setting =
      (Program.script earlier).lint setting ++ (Program.script (resumed earlier later)).lint setting ∧
    (∀ (p q r : Program) (a b c : Address), (Node.program p).BodyAt (earlier ++ later) a →
      (Node.program q).BodyAt earlier b → (Node.program r).BodyAt (resumed earlier later) c →
      p.lintChildren setting a 0 (earlier ++ later).length =
        q.lintChildren setting b 0 earlier.length ++ r.lintChildren setting c 0 (resumed earlier later).length) ∧
    ∀ (p : Program) (a : Address), (Node.program p).BodyAt (earlier ++ later) a →
      p.lintChildren setting a 0 earlier.length = (Program.script earlier).lint setting ∧
      p.lintChildren setting a earlier.length later.length = (Program.script (resumed earlier later)).lint setting ∧
      (setting.severity ≠ .off → earlier.all Stmt.isDirectiveLike = false →
        ∀ index span e, later[index]? = some (.expr span e) → e.isString = true →
          ∃ s ∈ p.violations setting, s.address = (earlier.length + index) :: a ∧ s.span = span ∧ s.expr = e) := by
  simp only [Program.lint_script]
  refine ⟨?_, fun p q r a b c whole first second => ?_, fun p a held => ⟨?_, ?_, ?_⟩⟩
  · rw [bodySightings_append, Setting.findings_append]
  · rw [Program.lintChildren_of_bodyAt whole, Program.lintChildren_of_bodyAt first,
      Program.lintChildren_of_bodyAt second, bodySightings_append, Setting.findings_append]
  · exact Program.lintChildren_earlier held setting
  · exact Program.lintChildren_later held setting
  · intro enabled ended index span e here string
    exact Program.mem_violations_of_late_string held enabled ended here string

/-- The body of a function is a string, a call and another string, which is reported. -/
theorem lint_append_in_function :
    ∃ p : Program,
      p.lintChildren .standard [0, 0, 0, 0] 0 2 = [] ∧
      p.lintChildren .standard [0, 0, 0, 0] 2 1 = [Rule.diagnostic .error ⟨30, 34⟩] ∧
      p.lintChildren .standard [0, 0, 0, 0] 0 3 =
        (Program.script [.expr ⟨15, 20⟩ (.string "a"), .expr ⟨21, 25⟩ (.call (.ident "f") [])]).lintChildren .standard
          [0] 0 2 ++
        (Program.script [.empty, .expr ⟨30, 34⟩ (.string "b")]).lintChildren .standard [0] 0 2 ∧
      ∃ s ∈ p.violations .standard, s.address = [2, 0, 0, 0, 0] ∧ s.expr = .string "b" := by
  let first : List Stmt := [.expr ⟨15, 20⟩ (.string "a"), .expr ⟨21, 25⟩ (.call (.ident "f") [])]
  let second : List Stmt := [.expr ⟨30, 34⟩ (.string "b")]
  let p : Program := .script [.function (.mk [] [] (some (.mk (first ++ second))))]
  have held : (Node.program p).BodyAt (first ++ second) [0, 0, 0, 0] := .function (.body rfl rfl rfl)
  obtain ⟨-, law, parts⟩ := lint_append first second .standard
  obtain ⟨before, after, strings⟩ := parts p _ held
  obtain ⟨s, member, place, -, is⟩ := strings (by decide) (by decide) 0 _ _ rfl rfl
  exact ⟨p, before.trans (by decide +kernel), after.trans (by decide +kernel),
    law p _ _ _ [0] [0] held (.script rfl) (.script rfl), s, member, place, is⟩

end UnusedExpr
