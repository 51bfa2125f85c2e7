import UnusedExpr.Report
import UnusedExpr.Rule.Description
import UnusedExpr.Rule.Verdict
import UnusedExpr.Setting.Basic

/-!
# Linting programs

The rule is a visitor: it walks a tree, keeps the scopes around the current node on a stack, and hands a
diagnostic to its reporter for each expression statement that is not acceptable (§4.4). One visitor may walk
several trees. The rule applied to a program collects the diagnostics in a list; applied to a series of
programs it shows them by a handler.
-/

namespace UnusedExpr

/-- The diagnostic of this rule on a statement. -/
def Rule.diagnostic (severity : Severity) (span : Span) : Diagnostic where
  ruleId := Rule.id
  messageId := Rule.messageId
  message := Rule.message
  severity := severity
  span := span

/-- A walk in progress. -/
structure Visitor (σ : Type) where
  setting : Setting
  /-- The scopes around the current node, from the innermost outwards. -/
  scopes : List Scope
  /-- Takes the diagnostics. -/
  reporter : σ

namespace Visitor

variable {σ : Type} [Reporter σ]

/-- A visitor that has not seen anything. -/
def start (setting : Setting) (reporter : σ) : Visitor σ :=
  ⟨setting, [], reporter⟩

def push (v : Visitor σ) (scope : Scope) : Visitor σ :=
  { v with scopes := scope :: v.scopes }

def pop (v : Visitor σ) : Visitor σ :=
  { v with scopes := v.scopes.tail }

/-- Reports the statement at `address` if it is not acceptable there, once and with its span (§4.4). -/
def check (v : Visitor σ) (address : Address) (span : Span) (e : Expr) : Visitor σ :=
  if !v.setting.isEnabled || Occurrence.isValid v.setting.options ⟨span, e, address, v.scopes⟩ then v
  else { v with reporter := Reporter.report v.reporter (Rule.diagnostic v.setting.severity span) }

/-- Runs `walk` inside the scope that a node opens, if it opens one. -/
def within (v : Visitor σ) (scope : Option Scope) (walk : Visitor σ → Visitor σ) : Visitor σ :=
  match scope with
  | none => walk v
  | some scope => (walk (v.push scope)).pop

/-- Checks a node if it is an expression statement. -/
def enter (v : Visitor σ) (address : Address) : Node → Visitor σ
  | .stmt (.expr span e) => v.check address span e
  | _ => v

/-- Whether a node is not walked at all: a whole program, if the rule is off (§9). -/
def skips (v : Visitor σ) : Node → Bool
  | .program _ => !v.setting.isEnabled
  | _ => false

/-- Walks the tree at `address`, with the statements nested anywhere in it (§4.4). -/
def visit (v : Visitor σ) (address : Address) (node : Node) : Visitor σ :=
  if v.skips node then v
  else
    (v.enter address node).within (node.scope? address) fun v =>
      (node.placedChildren address).attach.foldl (fun v placed => v.visit placed.1.2 placed.1.1) v
termination_by sizeOf node
decreasing_by exact Node.sizeOf_lt_of_mem_placedChildren placed.2

/-- A visit checks the node itself and then walks its children in turn, inside the scope of the node. -/
theorem visit_eq (v : Visitor σ) (address : Address) (node : Node) :
    v.visit address node = if v.skips node then v else
      (v.enter address node).within (node.scope? address) fun v =>
        (node.placedChildren address).foldl (fun v placed => v.visit placed.2 placed.1) v := by
  rw [visit]
  congr
  funext v
  exact List.foldl_attach (f := fun (v : Visitor σ) (placed : Node × Address) => v.visit placed.2 placed.1)

/-- Walks several trees in turn. -/
def visitAll (v : Visitor σ) (nodes : List Node) : Visitor σ :=
  nodes.foldl (fun v node => v.visit [] node) v

end Visitor

/-! ### Programs -/

/-- The diagnostics of a program. -/
def Program.lint (p : Program) (setting : Setting) : List Diagnostic :=
  ((Visitor.start setting ([] : List Diagnostic)).visit [] (.program p)).reporter

/-- The expression statements of a program. -/
def Program.occurrences (p : Program) : List Occurrence :=
  (Node.program p).occurrences [] []

/-- A visitor that shows its diagnostics. -/
abbrev Pass := Visitor Handler

/-- A pass with a handler that has shown nothing. -/
def Pass.start (setting : Setting) : Pass :=
  Visitor.start setting {}

/-- Walks one more program. -/
def Pass.run (p : Pass) (program : Program) : Pass :=
  p.visit [] (.program program)

end UnusedExpr
