import UnusedExpr.Proofs.Occurrences

/-! # What a visit reports

A visit leaves the setting and the stack of scopes as they were and hands to the reporter one diagnostic for
each occurrence of the tree that is not acceptable, in the order of the occurrences. This is shown for one
node from what the visits of its children do (`visit_eq_reportAll`), for any stack and any reporter.

The calls that a visit makes on the way are described by `Calls`: each comes with the visitor as it is at
that moment. If the rule is on they go to every node of the tree, and to no other (`exists_calls_iff`). -/

namespace UnusedExpr

/-- An expression statement as the verdict sees it. Where it stands counts only for whether it is a directive. -/
structure Sighting where
  span : Span
  expr : Expr
  directive : Bool

def Sighting.isValid (o : Options) (s : Sighting) : Bool :=
  s.expr.isAcceptable o s.directive

def Occurrence.sighting (s : Occurrence) : Sighting :=
  ⟨s.span, s.expr, s.isDirective⟩

theorem Occurrence.isValid_sighting (o : Options) (s : Occurrence) : s.sighting.isValid o = s.isValid o := rfl

/-- What is due for some expression statements: nothing if the rule is off, and else one diagnostic for each
    that is not acceptable. -/
def Setting.findings (setting : Setting) (seen : List Sighting) : List Diagnostic :=
  if setting.severity = .off then []
  else (seen.filter fun s => !s.isValid setting.options).map fun s => Rule.diagnostic setting.severity s.span

namespace Setting
variable {setting : Setting}

theorem isEnabled_eq_false_iff : setting.isEnabled = false ↔ setting.severity = .off := by
  simp [isEnabled, Severity.isEnabled]

theorem findings_of_off (off : setting.severity = .off) (seen : List Sighting) : setting.findings seen = [] := by
  simp [findings, off]

@[simp] theorem findings_nil : setting.findings [] = [] := by
  simp [findings]

theorem findings_append (seen later : List Sighting) :
    setting.findings (seen ++ later) = setting.findings seen ++ setting.findings later := by
  unfold findings
  split
  · rfl
  · rw [List.filter_append, List.map_append]

theorem findings_singleton (s : Sighting) :
    setting.findings [s] =
      if !setting.isEnabled || s.isValid setting.options then []
      else [Rule.diagnostic setting.severity s.span] := by
  by_cases off : setting.severity = .off
  · simp [findings_of_off off, isEnabled_eq_false_iff.mpr off]
  · have enabled : setting.isEnabled = true := by simpa [← isEnabled_eq_false_iff] using off
    cases valid : s.isValid setting.options <;> simp [findings, off, enabled, valid]

/-- What is due for the occurrences of a tree is due for those that are not valid where they stand. -/
theorem findings_map_sighting (found : List Occurrence) :
    setting.findings (found.map Occurrence.sighting) =
      if setting.severity = .off then []
      else (found.filter fun s => !s.isValid setting.options).map fun s =>
        Rule.diagnostic setting.severity s.span := by
  unfold findings
  split
  · rfl
  · rw [List.filter_map, List.map_map]
    rfl

end Setting

@[simp] theorem foldl_report_list (collected due : List Diagnostic) :
    due.foldl Reporter.report collected = collected ++ due := by
  have collects : due.foldl Reporter.report collected = collected ++ due.flatMap ([·]) :=
    List.foldl_append_eq_append
  rw [collects, List.flatMap_singleton']

namespace Visitor
variable {σ : Type} {v : Visitor σ} {address : Address} {node : Node}

/-- The visitor inside the scope that a node opens, if it opens one. -/
def inside (v : Visitor σ) (scope : Option Scope) : Visitor σ :=
  scope.elim v v.push

@[simp] theorem inside_setting (scope : Option Scope) : (v.inside scope).setting = v.setting := by
  cases scope <;> rfl

theorem inside_scopes : (v.inside (node.scope? address)).scopes = node.innerScopes v.scopes address := by
  cases opened : node.scope? address <;> simp [inside, push, Node.innerScopes, opened]

theorem skips_of_enabled (enabled : v.setting.isEnabled = true) (node : Node) : v.skips node = false := by
  unfold skips
  split
  · rw [enabled]
    rfl
  · rfl

variable [Reporter σ]

/-- A visitor that has reported what is due for some occurrences. -/
def reportAll (v : Visitor σ) (found : List Occurrence) : Visitor σ :=
  { v with reporter := (v.setting.findings (found.map Occurrence.sighting)).foldl Reporter.report v.reporter }

@[simp] theorem reportAll_setting (found : List Occurrence) : (v.reportAll found).setting = v.setting := rfl

@[simp] theorem reportAll_scopes (found : List Occurrence) : (v.reportAll found).scopes = v.scopes := rfl

@[simp] theorem reportAll_nil : v.reportAll [] = v := by
  simp [reportAll]

theorem reportAll_append (found later : List Occurrence) :
    v.reportAll (found ++ later) = (v.reportAll found).reportAll later := by
  simp [reportAll, Setting.findings_append]

theorem reportAll_of_disabled (off : v.setting.isEnabled = false) (found : List Occurrence) :
    v.reportAll found = v := by
  simp [reportAll, Setting.findings_of_off (Setting.isEnabled_eq_false_iff.mp off)]

/-! ### One node -/

theorem check_eq_reportAll (span : Span) (e : Expr) :
    v.check address span e = v.reportAll [⟨span, e, address, v.scopes⟩] := by
  rw [check, reportAll, List.map_singleton, Setting.findings_singleton, Occurrence.isValid_sighting]
  split <;> rfl

theorem enter_eq_reportAll :
    v.enter address node = v.reportAll (node.ownOccurrence? v.scopes address).toList := by
  unfold enter
  split
  · exact check_eq_reportAll _ _
  · rw [Node.ownOccurrence?, Option.toList_none, reportAll_nil]
    assumption

/-- Leaving a scope undoes entering it, whatever was reported inside. -/
theorem within_of_reportAll {scope : Option Scope} {walk : Visitor σ → Visitor σ} {found : List Occurrence}
    (walked : walk (v.inside scope) = (v.inside scope).reportAll found) :
    v.within scope walk = v.reportAll found := by
  cases scope with
  | none => exact walked
  | some scope =>
    have inner : walk (v.push scope) = (v.push scope).reportAll found := walked
    rw [within, inner]
    rfl

/-! ### The whole walk -/

theorem foldl_visit_eq_reportAll (placed : List (Node × Address))
    (visits : ∀ x ∈ placed, ∀ v : Visitor σ, v.visit x.2 x.1 = v.reportAll (x.1.occurrences v.scopes x.2))
    (v : Visitor σ) :
    placed.foldl (fun v x => v.visit x.2 x.1) v =
      v.reportAll (placed.flatMap fun x => x.1.occurrences v.scopes x.2) := by
  induction placed generalizing v with
  | nil => simp
  | cons x rest ih =>
    have first := visits x (by simp) v
    have later := ih (fun y member => visits y (by simp [member])) (v.reportAll (x.1.occurrences v.scopes x.2))
    rw [List.foldl_cons, first, later, List.flatMap_cons, reportAll_append, reportAll_scopes]

/-- A visit reports what is due for the occurrences of the tree, and changes nothing else. -/
theorem visit_eq_reportAll (v : Visitor σ) (address : Address) (node : Node) :
    v.visit address node = v.reportAll (node.occurrences v.scopes address) := by
  induction node using Node.induction generalizing v address with | step node ih
  rw [visit_eq]
  split
  case isTrue skipped =>
    -- Only a whole program is skipped, and only if the rule is off.
    have off : v.setting.isEnabled = false := by
      unfold skips at skipped
      split at skipped
      · simpa using skipped
      · cases skipped
    exact (reportAll_of_disabled off _).symm
  case isFalse =>
    rw [Node.occurrences_eq, reportAll_append, ← enter_eq_reportAll]
    apply within_of_reportAll
    have visits : ∀ x ∈ node.placedChildren address, ∀ v : Visitor σ,
        v.visit x.2 x.1 = v.reportAll (x.1.occurrences v.scopes x.2) := fun x member v =>
      ih x.1 (Node.mem_children_of_mem_placedChildren member) v x.2
    rw [foldl_visit_eq_reportAll _ visits, inside_scopes, enter_eq_reportAll, reportAll_scopes]

/-! ### The calls of a visit -/

/-- The visitor as it turns to the children of a node. -/
def descend (v : Visitor σ) (address : Address) (node : Node) : Visitor σ :=
  (v.enter address node).inside (node.scope? address)

/-- The calls that a visit makes, each with the visitor as it is then: the visit itself, and what the visit of
    a child makes after the children before it have been visited. -/
inductive Calls : Visitor σ → Address → Node → Visitor σ → Address → Node → Prop
  | self (v : Visitor σ) (address : Address) (node : Node) : Calls v address node v address node
  | child {v w : Visitor σ} {address place : Address} {node below : Node} {x : Node × Address}
      (before after : List (Node × Address)) (walked : v.skips node = false)
      (split : node.placedChildren address = before ++ x :: after)
      (deeper : Calls (before.foldl (fun v x => v.visit x.2 x.1) (v.descend address node)) x.2 x.1 w place below) :
      Calls v address node w place below

theorem descend_setting (v : Visitor σ) (address : Address) (node : Node) :
    (v.descend address node).setting = v.setting := by
  rw [descend, inside_setting, enter_eq_reportAll, reportAll_setting]

theorem descend_scopes (v : Visitor σ) (address : Address) (node : Node) :
    (v.descend address node).scopes = node.innerScopes v.scopes address := by
  rw [descend, inside_scopes, enter_eq_reportAll, reportAll_scopes]

theorem foldl_visit_frame (placed : List (Node × Address)) (v : Visitor σ) :
    (placed.foldl (fun v x => v.visit x.2 x.1) v).setting = v.setting ∧
      (placed.foldl (fun v x => v.visit x.2 x.1) v).scopes = v.scopes := by
  rw [foldl_visit_eq_reportAll placed fun x _ v => v.visit_eq_reportAll x.2 x.1]
  exact ⟨rfl, rfl⟩

variable {w : Visitor σ} {place : Address} {below : Node}

theorem Calls.setting_eq (call : Calls v address node w place below) : w.setting = v.setting := by
  induction call with
  | self => rfl
  | child before after walked split deeper ih =>
    rw [ih, (foldl_visit_frame before _).1, descend_setting]

/-- Along the calls of a visit, the stack holds the scopes that the nodes on the way open. -/
theorem Calls.standing (call : Calls v address node w place below) {root : Node}
    (found : root.nodeAt? address = some node) (around : v.scopes = root.scopesAt address) :
    root.nodeAt? place = some below ∧ w.scopes = root.scopesAt place := by
  induction call with
  | self => exact ⟨found, around⟩
  | @child v w address place node below x before after walked split deeper ih =>
    have member : x ∈ node.placedChildren address := by simp [split]
    obtain ⟨index, under, here⟩ := Node.mem_placedChildren.mp member
    have reached : root.nodeAt? x.2 = some x.1 := by
      rw [here]
      exact Node.nodeAt?_cons_eq_some.mpr ⟨node, found, under⟩
    refine ih reached ?_
    rw [(foldl_visit_frame before _).2, descend_scopes, around, here, Node.scopesAt_cons index found]

theorem Calls.trans {u : Visitor σ} {deepest : Address} {last : Node} (call : Calls v address node w place below)
    (next : Calls w place below u deepest last) : Calls v address node u deepest last := by
  induction call with
  | self => exact next
  | child before after walked split deeper ih => exact .child before after walked split (ih next)

/-- Every child of a node is called, once those before it have been visited. -/
theorem exists_calls_child (enabled : v.setting.isEnabled = true) {index : Nat} {child : Node}
    (under : node.children[index]? = some child) : ∃ w, Calls v address node w (index :: address) child := by
  have member : (child, index :: address) ∈ node.placedChildren address :=
    Node.mem_placedChildren.mpr ⟨index, under, rfl⟩
  obtain ⟨before, after, split⟩ := List.append_of_mem member
  exact ⟨_, .child before after (skips_of_enabled enabled node) split (.self ..)⟩

/-- If the rule is on, the calls of a walk go to the nodes of the tree, to each of them and each at its address. -/
theorem exists_calls_iff {setting : Setting} (enabled : setting.isEnabled = true) (reporter : σ) (root : Node) :
    (∃ w, Calls (start setting reporter) [] root w place below) ↔ root.nodeAt? place = some below := by
  constructor
  · rintro ⟨w, call⟩
    exact (call.standing rfl rfl).1
  · intro found
    induction place generalizing below with
    | nil =>
      obtain rfl := Option.some.inj found
      exact ⟨_, .self ..⟩
    | cons index place ih =>
      obtain ⟨parent, above, under⟩ := Node.nodeAt?_cons_eq_some.mp found
      obtain ⟨v, call⟩ := ih above
      have on : v.setting.isEnabled = true := by
        rw [call.setting_eq]
        exact enabled
      obtain ⟨w, next⟩ := exists_calls_child on under
      exact ⟨w, call.trans next⟩

end Visitor

/-- A lint reports every expression statement of the program that is not acceptable where it stands, in the
    order of the walk, and nothing if the rule is off. The statements come from every part of the program,
    each once and with the scopes around it. -/
theorem lint_eq_unacceptable_occurrences (p : Program) (setting : Setting) :
    (p.lint setting =
      if setting.severity = .off then []
      else (p.occurrences.filter fun s => !s.isValid setting.options).map fun s =>
        Rule.diagnostic setting.severity s.span) ∧
    (∀ s, s ∈ p.occurrences ↔ s.StandsIn (.program p)) ∧
    p.occurrences.Pairwise fun s t => s.address.Precedes t.address := by
  refine ⟨?_, fun s => p.mem_occurrences_iff, p.pairwise_occurrences⟩
  rw [Program.lint, Visitor.visit_eq_reportAll, Visitor.reportAll, foldl_report_list, ← Setting.findings_map_sighting]
  rfl

end UnusedExpr
