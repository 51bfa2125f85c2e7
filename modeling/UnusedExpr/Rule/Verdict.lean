import UnusedExpr.Rule.Chain
import UnusedExpr.Rule.Prologue

/-!
# The verdict on a statement

An expression statement is acceptable if its expression has an effect, if it is a directive, or if it is
an assertion chain (§4.4). `Node.occurrences` lists every expression statement in a tree with its address
and the scopes around it, a statement before those nested in its own expression.
-/

namespace UnusedExpr

/-- Whether an expression is acceptable as a statement, given whether that is a directive (§4.4). -/
def Expr.isAcceptable (o : Options) (directive : Bool) (e : Expr) : Bool :=
  !e.isUnused o || directive || e.isExpectChain || e.isShouldChain

/-- An expression statement with where it stands: its address, and the scopes around it from the innermost
    outwards. -/
structure Occurrence where
  span : Span
  expr : Expr
  address : Address
  scopes : List Scope

namespace Occurrence

def isDirective (s : Occurrence) : Bool :=
  UnusedExpr.isDirective s.scopes s.address

/-- Whether the statement is acceptable where it stands. -/
def isValid (o : Options) (s : Occurrence) : Bool :=
  s.expr.isAcceptable o s.isDirective

end Occurrence

/-! ### The expression statements of a tree -/

namespace Node

/-- The children with their addresses, given the address of the node. -/
def placedChildren (address : Address) (node : Node) : List (Node × Address) :=
  node.children.zipIdx.map fun (child, index) => (child, index :: address)

theorem mem_children_of_mem_placedChildren {address : Address} {node : Node} {placed : Node × Address}
    (mem : placed ∈ node.placedChildren address) : placed.1 ∈ node.children := by
  obtain ⟨⟨child, index⟩, member, rfl⟩ := List.mem_map.mp mem
  exact (List.mem_zipIdx' member).2 ▸ List.getElem_mem _

theorem sizeOf_lt_of_mem_placedChildren {address : Address} {node : Node} {placed : Node × Address}
    (mem : placed ∈ node.placedChildren address) : sizeOf placed.1 < sizeOf node :=
  sizeOf_lt_of_mem_children (mem_children_of_mem_placedChildren mem)

/-- The scopes around the children of a node, given those around the node. -/
def innerScopes (scopes : List Scope) (address : Address) (node : Node) : List Scope :=
  (node.scope? address).toList ++ scopes

/-- The node itself, if it is an expression statement. -/
def ownOccurrence? (scopes : List Scope) (address : Address) : Node → Option Occurrence
  | .stmt (.expr span e) => some ⟨span, e, address, scopes⟩
  | _ => none

/-- The expression statements of a tree at `address` inside `scopes`, in the order of a walk. -/
def occurrences (scopes : List Scope) (address : Address) (node : Node) : List Occurrence :=
  (node.ownOccurrence? scopes address).toList ++
    (node.placedChildren address).attach.flatMap fun placed =>
      placed.1.1.occurrences (node.innerScopes scopes address) placed.1.2
termination_by sizeOf node
decreasing_by exact sizeOf_lt_of_mem_placedChildren placed.2

/-- A statement comes before those nested in it, and these come child by child. -/
theorem occurrences_eq (scopes : List Scope) (address : Address) (node : Node) :
    node.occurrences scopes address = (node.ownOccurrence? scopes address).toList ++
      (node.placedChildren address).flatMap fun placed =>
        placed.1.occurrences (node.innerScopes scopes address) placed.2 := by
  rw [occurrences]
  conv => rhs; rw [← List.attach_map_subtype_val (node.placedChildren address), List.flatMap_map]

end Node

end UnusedExpr
