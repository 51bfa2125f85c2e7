import Mathlib.Data.List.Basic
import UnusedExpr.Proofs.Roles

/-! # What a tree shows wherever it stands

`Node.sightings` lists the expression statements of a tree as the verdict sees them. It knows neither addresses
nor scopes, only the role in which the tree is held. Where the stack agrees with that role, these are the
occurrences of the tree (`map_sighting_occurrences`).

Statements and blocks show different things in different roles. All other nodes are self-contained: every
statement under one of them is inside a scope that is opened there, so what a visit reports for it depends
neither on the stack with which the visit comes nor on the address. -/

namespace UnusedExpr

namespace Node
variable {node : Node} {role : Role} {scopes : List Scope} {address : Address}

/-- The node itself in its role, if it is an expression statement. -/
def ownSighting? (role : Role) : Node → Option Sighting
  | .stmt (.expr span e) => some ⟨span, e, role = .leading⟩
  | _ => none

theorem mem_children_of_mem_zipIdx {x : Node × Nat} (member : x ∈ node.children.zipIdx) : x.1 ∈ node.children :=
  List.mem_of_getElem? (List.mem_zipIdx_iff_getElem?.mp member)

/-- The expression statements of a tree in a role, in the order of a walk. -/
def sightings (role : Role) (node : Node) : List Sighting :=
  (node.ownSighting? role).toList ++
    node.children.zipIdx.attach.flatMap fun x => x.1.1.sightings (node.childRole role x.1.2)
termination_by sizeOf node
decreasing_by exact sizeOf_lt_of_mem_children (mem_children_of_mem_zipIdx x.2)

theorem sightings_eq (role : Role) (node : Node) :
    node.sightings role = (node.ownSighting? role).toList ++
      node.children.zipIdx.flatMap fun x => x.1.sightings (node.childRole role x.2) := by
  rw [sightings]
  conv => rhs; rw [← List.attach_map_subtype_val node.children.zipIdx, List.flatMap_map]

theorem ownOccurrence?_map_sighting (fits : node.Fits role scopes address) :
    (node.ownOccurrence? scopes address).map Occurrence.sighting = node.ownSighting? role := by
  unfold ownOccurrence?
  split
  · rename_i span e
    have own : isDirective scopes address = decide (role = .leading) := by
      rw [Bool.eq_iff_iff, decide_eq_true_iff]
      exact fits.own
    rw [ownSighting?, ← own]
    rfl
  · rw [ownSighting?, Option.map_none]
    assumption

/-- Where the stack agrees with the role, the occurrences of a tree are what it shows in that role. -/
theorem map_sighting_occurrences (fits : node.Fits role scopes address) :
    (node.occurrences scopes address).map Occurrence.sighting = node.sightings role := by
  induction node using Node.induction generalizing role scopes address with | step node ih
  rw [occurrences_eq, sightings_eq, List.map_append, ← Option.toList_map, ownOccurrence?_map_sighting fits,
    placedChildren, List.flatMap_map, List.map_flatMap]
  congr 1
  refine List.flatMap_congr fun x member => ?_
  have found := List.mem_zipIdx_iff_getElem?.mp member
  exact ih x.1 (List.mem_of_getElem? found) (fits_child fits found)

/-! ### Self-contained nodes -/

/-- Whether what a tree shows is the same wherever it stands: any but statements, blocks and parts of
    statements. -/
def isSelfContained : Node → Bool
  | .item _ | .stmt _ | .block _ | .switchCase _ | .catchClause _ => false
  | _ => true

theorem fits_of_isSelfContained (contained : node.isSelfContained = true) (role : Role) (scopes : List Scope)
    (address : Address) : node.Fits role scopes address := by
  cases node <;> trivial

theorem sightings_of_isSelfContained (contained : node.isSelfContained = true) (role role' : Role) :
    node.sightings role = node.sightings role' := by
  rw [← map_sighting_occurrences (fits_of_isSelfContained contained role [] []),
    map_sighting_occurrences (fits_of_isSelfContained contained role' [] [])]

/-- What a visit reports that starts at a node. -/
def diagnostics (setting : Setting) (node : Node) : List Diagnostic :=
  ((Visitor.start setting ([] : List Diagnostic)).visit [] node).reporter

theorem diagnostics_eq_occurrences (setting : Setting) (node : Node) :
    node.diagnostics setting = setting.findings ((node.occurrences [] []).map Occurrence.sighting) := by
  rw [diagnostics, Visitor.visit_eq_reportAll, Visitor.reportAll, foldl_report_list]
  rfl

theorem diagnostics_eq_findings (setting : Setting) (contained : node.isSelfContained = true) (role : Role) :
    node.diagnostics setting = setting.findings (node.sightings role) := by
  rw [diagnostics_eq_occurrences, map_sighting_occurrences (fits_of_isSelfContained contained role _ _)]

end Node

theorem Program.lint_eq_findings (p : Program) (setting : Setting) :
    p.lint setting = setting.findings ((Node.program p).sightings .other) :=
  Node.diagnostics_eq_findings setting rfl .other

namespace Visitor
variable {σ : Type} [Reporter σ]

theorem visit_of_isSelfContained {node : Node} (contained : node.isSelfContained = true) (v : Visitor σ)
    (address : Address) :
    v.visit address node =
      { v with reporter := (node.diagnostics v.setting).foldl Reporter.report v.reporter } := by
  rw [visit_eq_reportAll, reportAll, Node.map_sighting_occurrences (Node.fits_of_isSelfContained contained .other _ _),
    Node.diagnostics_eq_findings v.setting contained .other]

/-! ### Segments of a report -/

theorem visit_reporter {v : Visitor σ} {address : Address} {node : Node} (walked : v.skips node = false) :
    (v.visit address node).reporter =
      ((node.placedChildren address).foldl (fun v x => v.visit x.2 x.1) (v.descend address node)).reporter := by
  rw [visit_eq, walked, descend]
  cases node.scope? address <;> rfl

/-- What a call of a visit reports stands in the report of the whole, right after what was reported before. -/
theorem Calls.reporter_append {v w : Visitor (List Diagnostic)} {address place : Address} {node below : Node}
    (call : Calls v address node w place below) :
    ∃ later, (v.visit address node).reporter = (w.visit place below).reporter ++ later := by
  induction call with
  | self => exact ⟨[], (List.append_nil _).symm⟩
  | @child v w address place node below x before after walked split deeper ih =>
    obtain ⟨later, same⟩ := ih
    rw [visit_reporter walked, split, List.foldl_append, List.foldl_cons,
      foldl_visit_eq_reportAll after fun x _ v => v.visit_eq_reportAll x.2 x.1]
    rw [reportAll, foldl_report_list, same, List.append_assoc]
    exact ⟨_, rfl⟩

end Visitor

/-- What is reported for an expression, a function, a class member, a module or a script is the same whatever
    the stack with which a visit comes to it, its address and the reporter. In the report on a program that
    contains it, these diagnostics follow those that were reported before the visit came to it. -/
theorem visit_independent_of_context {node : Node} (contained : node.isSelfContained = true) (setting : Setting) :
    (∀ {σ : Type} [Reporter σ] (scopes : List Scope) (reporter : σ) (address : Address),
      (⟨setting, scopes, reporter⟩ : Visitor σ).visit address node =
        ⟨setting, scopes, (node.diagnostics setting).foldl Reporter.report reporter⟩) ∧
    ∀ (p : Program) (v : Visitor (List Diagnostic)) (address : Address),
      (Visitor.start setting []).Calls [] (.program p) v address node →
        ∃ later, p.lint setting = v.reporter ++ node.diagnostics setting ++ later := by
  refine ⟨fun scopes reporter address => Visitor.visit_of_isSelfContained contained _ address, ?_⟩
  intro p v address call
  obtain ⟨later, whole⟩ := call.reporter_append
  rw [Visitor.visit_of_isSelfContained contained, call.setting_eq] at whole
  refine ⟨later, whole.trans ?_⟩
  rw [foldl_report_list]
  rfl

/-- A visit comes to a function after another statement, and another visit from inside a function body. -/
theorem visit_function_after_statement :
    ∃ (f : Func) (p : Program) (v : Visitor (List Diagnostic)) (later : List Diagnostic),
      f = .mk [] [] (some (.mk [.expr ⟨18, 20⟩ (.ident "b")])) ∧
      p = .script [.expr ⟨0, 2⟩ (.ident "a"), .function f] ∧
      (⟨.standard, [.block [[0]], .function], []⟩ : Visitor (List Diagnostic)).visit [0] (.func f) =
        ⟨.standard, [.block [[0]], .function], (Node.func f).diagnostics .standard⟩ ∧
      (Visitor.start .standard []).Calls [] (.program p) v [0, 1, 0] (.func f) ∧
      p.lint .standard = v.reporter ++ (Node.func f).diagnostics .standard ++ later := by
  let f : Func := .mk [] [] (some (.mk [.expr ⟨18, 20⟩ (.ident "b")]))
  let p : Program := .script [.expr ⟨0, 2⟩ (.ident "a"), .function f]
  obtain ⟨alone, inside⟩ := @visit_independent_of_context (.func f) rfl .standard
  have enabled : Setting.standard.isEnabled = true := rfl
  have there : (Node.program p).nodeAt? [0, 1, 0] = some (.func f) := rfl
  obtain ⟨v, reached⟩ := (Visitor.exists_calls_iff enabled ([] : List Diagnostic) (.program p)).mpr there
  obtain ⟨later, whole⟩ := inside p v _ reached
  refine ⟨f, p, v, later, rfl, rfl, ?_, reached, whole⟩
  rw [alone, foldl_report_list, List.nil_append]

end UnusedExpr
