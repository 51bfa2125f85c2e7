import UnusedExpr.Proofs.Rebuild

/-! # Rebuilds that keep places

A rebuild may turn an expression into one that has the same children and opens the same scope. Then every node is
rebuilt in its place: the rebuilt tree has at each address the rebuilt node of the tree (`nodeAt?_rebuild`), and its
expression statements are those of the tree, rebuilt, at the same addresses and inside the same scopes
(`occurrences_rebuild`). -/

namespace UnusedExpr

/-- The same statement in a rebuilt tree, if places are kept. -/
def Occurrence.rebuild (r : Rebuild) (s : Occurrence) : Occurrence :=
  { s with span := r.span s.span, expr := s.expr.rebuild r }

/-- A rebuild whose change of expressions leaves alone their children and whether they open a function's scope. -/
structure Rebuild.KeepsPlaces (r : Rebuild) : Prop where
  children : ∀ e : Expr, (r.expr e).children = e.children
  function : ∀ e : Expr, (Node.expr (r.expr e)).isFunctionLike = (Node.expr e).isFunctionLike

namespace Node
variable {r : Rebuild}

theorem scope?_expr (e : Expr) (address : Address) :
    (Node.expr e).scope? address = if (Node.expr e).isFunctionLike then some .function else none := by
  cases e <;> rfl

theorem parallel_of_keepsPlaces (places : r.KeepsPlaces) (node : Node) : node.Parallel r (node.rebuild r) := by
  by_cases expression : ∃ e, node = .expr e
  · obtain ⟨e, rfl⟩ := expression
    obtain ⟨parts, whole, same, -⟩ := e.exists_parts (r := r)
    rw [rebuild, whole]
    exact ⟨(places.children parts).trans same.children, (places.function parts).trans same.function, same.holds,
      same.own⟩
  · exact parallel_rebuild fun e is => expression ⟨e, is⟩

/-- The change shows nothing else, since it leaves the children and their roles alone. -/
theorem sightings_of_keepsPlaces (places : r.KeepsPlaces) (role : Role) (e : Expr) :
    (Node.expr (r.expr e)).sightings role = (Node.expr e).sightings role := by
  have roles : (Node.expr (r.expr e)).childRole role = (Node.expr e).childRole role := by
    funext index
    simp [childRole, holdsDirectives, places.function]
  have children : (Node.expr (r.expr e)).children = (Node.expr e).children := places.children e
  rw [sightings_eq, sightings_eq, children, roles]
  rfl

theorem nodeAt?_rebuild (places : r.KeepsPlaces) (root : Node) (address : Address) :
    (root.rebuild r).nodeAt? address = (root.nodeAt? address).map (Node.rebuild r) := by
  induction address with
  | nil => rfl
  | cons index address ih =>
    rw [nodeAt?, nodeAt?, ih]
    cases root.nodeAt? address with
    | none => rfl
    | some parent =>
      rw [Option.map_some, Option.bind_some, Option.bind_some, (parallel_of_keepsPlaces places parent).children,
        List.getElem?_map]

variable (keeps : r.Keeps) (places : r.KeepsPlaces)
include keeps places

theorem scope?_rebuild (node : Node) (address : Address) : (node.rebuild r).scope? address = node.scope? address := by
  -- The scope of a list names the leading children by their addresses, so only their number matters.
  have same := parallel_of_keepsPlaces places node
  have run := same.runLength keeps
  cases node with
  | module items =>
    rw [rebuild] at run ⊢
    rw [scope?_module, scope?_module, run]
  | script stmts =>
    rw [rebuild] at run ⊢
    rw [scope?_script, scope?_script, run]
  | block block =>
    rw [rebuild] at run ⊢
    rw [scope?_block, scope?_block, run]
  | expr e =>
    have function := same.function
    rw [rebuild] at function ⊢
    rw [scope?_expr, scope?_expr, function]
  | property x =>
    cases x with
    | getter key body => cases body <;> simp [rebuild, Property.rebuild, scope?]
    | setter key receiver param body => cases receiver <;> cases body <;> simp [rebuild, Property.rebuild, scope?]
    | _ => simp [rebuild, Property.rebuild, scope?]
  | member x =>
    cases x with
    | constructor key params body => cases body <;> simp [rebuild, Member.rebuild, scope?]
    | field key value decorators => cases value <;> simp [rebuild, Member.rebuild, scope?]
    | _ => simp [rebuild, Member.rebuild, scope?]
  | _ => rfl

omit keeps places in
theorem ownOccurrence?_eq (node : Node) (scopes : List Scope) (address : Address) :
    node.ownOccurrence? scopes address =
      (node.ownSighting? .other).map fun s => ⟨s.span, s.expr, address, scopes⟩ := by
  cases node with
  | stmt s => cases s <;> rfl
  | _ => rfl

/-- The rebuilt tree has the rebuilt statements in the same places. -/
theorem occurrences_rebuild (node : Node) (scopes : List Scope) (address : Address) :
    (node.rebuild r).occurrences scopes address = (node.occurrences scopes address).map (Occurrence.rebuild r) := by
  induction node using Node.induction generalizing scopes address with | step node ih
  have same := parallel_of_keepsPlaces places node
  have own : (node.rebuild r).ownOccurrence? scopes address =
      (node.ownOccurrence? scopes address).map (Occurrence.rebuild r) := by
    rw [ownOccurrence?_eq, ownOccurrence?_eq, same.own, Option.map_map, Option.map_map]
    rfl
  rw [occurrences_eq, occurrences_eq, own, List.map_append, Option.toList_map, placedChildren, placedChildren,
    same.children, List.zipIdx_map, List.map_map, List.flatMap_map, List.flatMap_map, List.map_flatMap, innerScopes,
    innerScopes, scope?_rebuild keeps places]
  congr 1
  refine List.flatMap_congr fun x member => ?_
  exact ih x.1 (mem_children_of_mem_zipIdx member) _ _

end Node

theorem Program.occurrences_rebuild {r : Rebuild} (keeps : r.Keeps) (places : r.KeepsPlaces) (p : Program) :
    (p.rebuild r).occurrences = p.occurrences.map (Occurrence.rebuild r) :=
  (Node.program p).occurrences_rebuild keeps places [] []

end UnusedExpr
