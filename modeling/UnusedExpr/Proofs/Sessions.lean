import UnusedExpr.Proofs.Sightings

/-! # One visitor on many trees

A visit takes each scope that it enters off the stack again, on every way through a tree. So a visitor comes to
its next tree as a fresh one would, whatever the trees before it were, and what it reports in a session is what
fresh visitors would report for the trees one after the other. -/

namespace UnusedExpr

namespace Visitor
variable {σ : Type} [Reporter σ]

theorem visit_scopes (v : Visitor σ) (address : Address) (node : Node) :
    (v.visit address node).scopes = v.scopes := by
  rw [visit_eq_reportAll, reportAll_scopes]

theorem visit_of_off {v : Visitor σ} (off : v.setting.severity = .off) (address : Address) (node : Node) :
    v.visit address node = v := by
  rw [visit_eq_reportAll, reportAll_of_disabled (Setting.isEnabled_eq_false_iff.mpr off)]

/-- A visitor without scopes on its stack reports what a fresh one does, and has none on it afterwards. -/
theorem visit_start (setting : Setting) (reporter : σ) (node : Node) :
    (start setting reporter).visit [] node =
      start setting ((node.diagnostics setting).foldl Reporter.report reporter) := by
  rw [visit_eq_reportAll, Node.diagnostics_eq_occurrences]
  rfl

theorem visitAll_start (setting : Setting) (reporter : σ) (nodes : List Node) :
    (start setting reporter).visitAll nodes =
      start setting ((nodes.flatMap fun node => node.diagnostics setting).foldl Reporter.report reporter) := by
  induction nodes generalizing reporter with
  | nil => rfl
  | cons node rest ih =>
    have later := ih ((node.diagnostics setting).foldl Reporter.report reporter)
    rw [List.flatMap_cons, List.foldl_append, ← later, ← visit_start]
    rfl

end Visitor

/-- A visit leaves the stack as it was, whatever it is. So a session of one visitor hands to its reporter what fresh
    visitors report for the trees in turn. If the rule is off, no visit does anything, also one that does not
    start at a program. -/
theorem visitAll_eq_fresh_visits {σ : Type} [Reporter σ] (setting : Setting) (reporter : σ) (nodes : List Node) :
    (∀ (v : Visitor σ) (address : Address) (node : Node), (v.visit address node).scopes = v.scopes) ∧
    (Visitor.start setting reporter).visitAll nodes =
      Visitor.start setting ((nodes.flatMap fun node => node.diagnostics setting).foldl Reporter.report reporter) ∧
    ∀ v : Visitor σ, v.setting.severity = .off → ∀ (address : Address) (node : Node), v.visit address node = v := by
  refine ⟨Visitor.visit_scopes, Visitor.visitAll_start setting reporter nodes, ?_⟩
  intro v off address node
  exact Visitor.visit_of_off off address node

/-- A string in a function is a directive, and the same string visited next is none. -/
theorem visitAll_function_then_statement :
    (Visitor.start .standard ([] : List Diagnostic)).visitAll
        [.func (.mk [] [] (some (.mk [.expr ⟨13, 25⟩ (.string "use strict")]))),
          .stmt (.expr ⟨0, 12⟩ (.string "use strict"))] =
      Visitor.start .standard [Rule.diagnostic .error ⟨0, 12⟩] ∧
    (Visitor.start .off ([] : List Diagnostic)).visit [] (.stmt (.expr ⟨0, 12⟩ (.string "use strict"))) =
      Visitor.start .off [] := by
  obtain ⟨-, session, -⟩ := visitAll_eq_fresh_visits .standard ([] : List Diagnostic)
    [.func (.mk [] [] (some (.mk [.expr ⟨13, 25⟩ (.string "use strict")]))),
      .stmt (.expr ⟨0, 12⟩ (.string "use strict"))]
  obtain ⟨-, -, off⟩ := visitAll_eq_fresh_visits .off ([] : List Diagnostic) []
  have function : (Node.func (.mk [] [] (some (.mk [.expr ⟨13, 25⟩ (.string "use strict")])))).diagnostics .standard =
      [] := by decide +kernel
  have statement : (Node.stmt (.expr ⟨0, 12⟩ (.string "use strict"))).diagnostics .standard =
      [Rule.diagnostic .error ⟨0, 12⟩] := by decide +kernel
  rw [List.flatMap_cons, List.flatMap_singleton, function, statement] at session
  exact ⟨session, off _ rfl _ _⟩

end UnusedExpr
