import UnusedExpr.Proofs.Sightings

/-! # Rebuilding trees

A rebuild changes a tree from its leaves upwards: the span of each expression statement by one function, and each
expression, once its parts are rebuilt, by another. What the second function leaves alone at one expression
(`Keeps`) the rebuild leaves alone in the whole tree: a rebuilt tree shows the rebuilt statements of the tree, in
the same order and as directives or not as before (`sightings_rebuild`), and the rule answers for them as before.
So the report on a rebuilt program is the report on the program with its spans changed (`lint_rebuild`). -/

namespace UnusedExpr

/-- A change of spans and of expressions. -/
structure Rebuild where
  span : Span → Span
  expr : Expr → Expr

mutual

/-- Rebuilds the parts of an expression and then changes what they form. -/
def Expr.rebuild (r : Rebuild) : Expr → Expr
  | .paren inner => r.expr (.paren (inner.rebuild r))
  | .string value => r.expr (.string value)
  | .literal kind => r.expr (.literal kind)
  | .ident name => r.expr (.ident name)
  | .thisExpr => r.expr .thisExpr
  | .metaProperty => r.expr .metaProperty
  | .member obj key => r.expr (.member (obj.rebuild r) (key.rebuild r))
  | .superMember name => r.expr (.superMember name)
  | .superComputed e => r.expr (.superComputed (e.rebuild r))
  | .optMember obj key => r.expr (.optMember (obj.rebuild r) (key.rebuild r))
  | .call callee args => r.expr (.call (callee.rebuild r) (args.map (·.rebuild r)))
  | .superCall args => r.expr (.superCall (args.map (·.rebuild r)))
  | .importCall args => r.expr (.importCall (args.map (·.rebuild r)))
  | .optCall callee args => r.expr (.optCall (callee.rebuild r) (args.map (·.rebuild r)))
  | .newCall callee args => r.expr (.newCall (callee.rebuild r) (args.map (·.rebuild r)))
  | .array elements => r.expr (.array (elements.map (·.rebuild r)))
  | .object properties => r.expr (.object (properties.map (·.rebuild r)))
  | .function func => r.expr (.function (func.rebuild r))
  | .arrow params body => r.expr (.arrow (params.map (·.rebuild r)) (body.rebuild r))
  | .conciseArrow params body => r.expr (.conciseArrow (params.map (·.rebuild r)) (body.rebuild r))
  | .classExpr body => r.expr (.classExpr (body.rebuild r))
  | .unary op e => r.expr (.unary op (e.rebuild r))
  | .update e => r.expr (.update (e.rebuild r))
  | .logical op left right => r.expr (.logical op (left.rebuild r) (right.rebuild r))
  | .binary left right => r.expr (.binary (left.rebuild r) (right.rebuild r))
  | .assign target value => r.expr (.assign (target.rebuild r) (value.rebuild r))
  | .conditional test consequent alternate =>
    r.expr (.conditional (test.rebuild r) (consequent.rebuild r) (alternate.rebuild r))
  | .sequence es => r.expr (.sequence (es.map (·.rebuild r)))
  | .template es => r.expr (.template (es.map (·.rebuild r)))
  | .taggedTemplate tag es => r.expr (.taggedTemplate (tag.rebuild r) (es.map (·.rebuild r)))
  | .yieldExpr argument =>
    r.expr (.yieldExpr (match argument with | none => none | some e => some (e.rebuild r)))
  | .awaitExpr e => r.expr (.awaitExpr (e.rebuild r))
  | .jsxElement attributes children =>
    r.expr (.jsxElement (attributes.map (·.rebuild r)) (children.map (·.rebuild r)))
  | .jsxFragment children => r.expr (.jsxFragment (children.map (·.rebuild r)))
  | .jsxName => r.expr .jsxName
  | .typed inner => r.expr (.typed (inner.rebuild r))
  | .privateName name => r.expr (.privateName name)
  | .invalid => r.expr .invalid
termination_by tree => sizeOf tree
decreasing_by all_goals ((conv => rhs; simp); (try have := List.sizeOf_lt_of_mem ‹_ ∈ _›); omega)

def Key.rebuild (r : Rebuild) : Key → Key
  | .name name => .name name
  | .privateName name => .privateName name
  | .literal => .literal
  | .computed e => .computed (e.rebuild r)
termination_by tree => sizeOf tree
decreasing_by all_goals ((conv => rhs; simp); omega)

def Pattern.rebuild (r : Rebuild) : Pattern → Pattern
  | .ident => .ident
  | .target e => .target (e.rebuild r)
  | .array elements => .array (elements.map (·.rebuild r))
  | .object fields => .object (fields.map (·.rebuild r))
  | .rest inner => .rest (inner.rebuild r)
  | .withDefault inner value => .withDefault (inner.rebuild r) (value.rebuild r)
termination_by tree => sizeOf tree
decreasing_by all_goals ((conv => rhs; simp); (try have := List.sizeOf_lt_of_mem ‹_ ∈ _›); omega)

def PatternField.rebuild (r : Rebuild) : PatternField → PatternField
  | .keyed key value => .keyed (key.rebuild r) (value.rebuild r)
  | .shorthand value => .shorthand (match value with | none => none | some e => some (e.rebuild r))
  | .rest inner => .rest (inner.rebuild r)
termination_by tree => sizeOf tree
decreasing_by all_goals ((conv => rhs; simp); omega)

def Property.rebuild (r : Rebuild) : Property → Property
  | .shorthand => .shorthand
  | .keyed key value => .keyed (key.rebuild r) (value.rebuild r)
  | .getter key body => .getter (key.rebuild r) (match body with | none => none | some b => some (b.rebuild r))
  | .setter key receiver param body =>
    .setter (key.rebuild r) (match receiver with | none => none | some p => some (p.rebuild r)) (param.rebuild r)
      (match body with | none => none | some b => some (b.rebuild r))
  | .method key func => .method (key.rebuild r) (func.rebuild r)
  | .spread inner => .spread (inner.rebuild r)
termination_by tree => sizeOf tree
decreasing_by all_goals ((conv => rhs; simp); omega)

def Param.rebuild (r : Rebuild) : Param → Param
  | .mk decorators pattern => .mk (decorators.map (·.rebuild r)) (pattern.rebuild r)
termination_by tree => sizeOf tree
decreasing_by all_goals ((conv => rhs; simp); (try have := List.sizeOf_lt_of_mem ‹_ ∈ _›); omega)

def Func.rebuild (r : Rebuild) : Func → Func
  | .mk params decorators body =>
    .mk (params.map (·.rebuild r)) (decorators.map (·.rebuild r))
      (match body with | none => none | some b => some (b.rebuild r))
termination_by tree => sizeOf tree
decreasing_by all_goals ((conv => rhs; simp); (try have := List.sizeOf_lt_of_mem ‹_ ∈ _›); omega)

def Class.rebuild (r : Rebuild) : Class → Class
  | .mk decorators members superClass =>
    .mk (decorators.map (·.rebuild r)) (members.map (·.rebuild r))
      (match superClass with | none => none | some e => some (e.rebuild r))
termination_by tree => sizeOf tree
decreasing_by all_goals ((conv => rhs; simp); (try have := List.sizeOf_lt_of_mem ‹_ ∈ _›); omega)

def Member.rebuild (r : Rebuild) : Member → Member
  | .constructor key params body =>
    .constructor (key.rebuild r) (params.map (·.rebuild r))
      (match body with | none => none | some b => some (b.rebuild r))
  | .method key func => .method (key.rebuild r) (func.rebuild r)
  | .field key value decorators =>
    .field (key.rebuild r) (match value with | none => none | some e => some (e.rebuild r))
      (decorators.map (·.rebuild r))
  | .staticBlock body => .staticBlock (body.rebuild r)
  | .inert => .inert
termination_by tree => sizeOf tree
decreasing_by all_goals ((conv => rhs; simp); (try have := List.sizeOf_lt_of_mem ‹_ ∈ _›); omega)

def Block.rebuild (r : Rebuild) : Block → Block
  | .mk stmts => .mk (stmts.map (·.rebuild r))
termination_by tree => sizeOf tree
decreasing_by all_goals ((conv => rhs; simp); (try have := List.sizeOf_lt_of_mem ‹_ ∈ _›); omega)

def Stmt.rebuild (r : Rebuild) : Stmt → Stmt
  | .expr span e => .expr (r.span span) (e.rebuild r)
  | .block body => .block (body.rebuild r)
  | .empty => .empty
  | .debuggerStmt => .debuggerStmt
  | .breakStmt => .breakStmt
  | .continueStmt => .continueStmt
  | .withStmt obj body => .withStmt (obj.rebuild r) (body.rebuild r)
  | .returnStmt argument => .returnStmt (match argument with | none => none | some e => some (e.rebuild r))
  | .throwStmt e => .throwStmt (e.rebuild r)
  | .labeled body => .labeled (body.rebuild r)
  | .ifStmt test consequent alternate =>
    .ifStmt (test.rebuild r) (consequent.rebuild r)
      (match alternate with | none => none | some s => some (s.rebuild r))
  | .switchStmt discriminant cases => .switchStmt (discriminant.rebuild r) (cases.map (·.rebuild r))
  | .tryStmt block handler finalizer =>
    .tryStmt (block.rebuild r) (match handler with | none => none | some c => some (c.rebuild r))
      (match finalizer with | none => none | some b => some (b.rebuild r))
  | .whileStmt test body => .whileStmt (test.rebuild r) (body.rebuild r)
  | .doWhileStmt test body => .doWhileStmt (test.rebuild r) (body.rebuild r)
  | .forStmt init test update body =>
    .forStmt (match init with | none => none | some h => some (h.rebuild r))
      (match test with | none => none | some e => some (e.rebuild r))
      (match update with | none => none | some e => some (e.rebuild r)) (body.rebuild r)
  | .forEachStmt head source body => .forEachStmt (head.rebuild r) (source.rebuild r) (body.rebuild r)
  | .function func => .function (func.rebuild r)
  | .classDecl body => .classDecl (body.rebuild r)
  | .variables declarators => .variables (declarators.map (·.rebuild r))
  | .enumDecl values => .enumDecl (values.map (·.rebuild r))
  | .namespaceDecl items => .namespaceDecl (items.map (·.rebuild r))
  | .typeDecl => .typeDecl
termination_by tree => sizeOf tree
decreasing_by all_goals ((conv => rhs; simp); (try have := List.sizeOf_lt_of_mem ‹_ ∈ _›); omega)

def ForHead.rebuild (r : Rebuild) : ForHead → ForHead
  | .variables declarators => .variables (declarators.map (·.rebuild r))
  | .expr e => .expr (e.rebuild r)
  | .pattern p => .pattern (p.rebuild r)
termination_by tree => sizeOf tree
decreasing_by all_goals ((conv => rhs; simp); (try have := List.sizeOf_lt_of_mem ‹_ ∈ _›); omega)

def Declarator.rebuild (r : Rebuild) : Declarator → Declarator
  | .mk pattern init => .mk (pattern.rebuild r) (match init with | none => none | some e => some (e.rebuild r))
termination_by tree => sizeOf tree
decreasing_by all_goals ((conv => rhs; simp); omega)

def SwitchCase.rebuild (r : Rebuild) : SwitchCase → SwitchCase
  | .mk test consequent =>
    .mk (match test with | none => none | some e => some (e.rebuild r)) (consequent.map (·.rebuild r))
termination_by tree => sizeOf tree
decreasing_by all_goals ((conv => rhs; simp); (try have := List.sizeOf_lt_of_mem ‹_ ∈ _›); omega)

def CatchClause.rebuild (r : Rebuild) : CatchClause → CatchClause
  | .mk param body => .mk (match param with | none => none | some p => some (p.rebuild r)) (body.rebuild r)
termination_by tree => sizeOf tree
decreasing_by all_goals ((conv => rhs; simp); omega)

def Item.rebuild (r : Rebuild) : Item → Item
  | .stmt s => .stmt (s.rebuild r)
  | .exportDecl declaration => .exportDecl (declaration.rebuild r)
  | .exportDefault e => .exportDefault (e.rebuild r)
  | .exportAssign e => .exportAssign (e.rebuild r)
  | .link attributes => .link (attributes.map (·.rebuild r))
  | .inert => .inert
termination_by tree => sizeOf tree
decreasing_by all_goals ((conv => rhs; simp); (try have := List.sizeOf_lt_of_mem ‹_ ∈ _›); omega)

end

def Program.rebuild (r : Rebuild) : Program → Program
  | .module items => .module (items.map (·.rebuild r))
  | .script stmts => .script (stmts.map (·.rebuild r))

def Node.rebuild (r : Rebuild) : Node → Node
  | .program p => .program (p.rebuild r)
  | .module items => .module (items.map (·.rebuild r))
  | .script stmts => .script (stmts.map (·.rebuild r))
  | .item i => .item (i.rebuild r)
  | .stmt s => .stmt (s.rebuild r)
  | .block b => .block (b.rebuild r)
  | .switchCase c => .switchCase (c.rebuild r)
  | .catchClause c => .catchClause (c.rebuild r)
  | .forHead h => .forHead (h.rebuild r)
  | .declarator d => .declarator (d.rebuild r)
  | .expr e => .expr (e.rebuild r)
  | .key k => .key (k.rebuild r)
  | .property p => .property (p.rebuild r)
  | .func f => .func (f.rebuild r)
  | .param p => .param (p.rebuild r)
  | .pattern p => .pattern (p.rebuild r)
  | .patternField f => .patternField (f.rebuild r)
  | .classBody c => .classBody (c.rebuild r)
  | .member m => .member (m.rebuild r)

def Sighting.rebuild (r : Rebuild) (s : Sighting) : Sighting :=
  ⟨r.span s.span, s.expr.rebuild r, s.directive⟩

def Diagnostic.rebuild (r : Rebuild) (d : Diagnostic) : Diagnostic :=
  { d with span := r.span d.span }

/-- A rebuild whose change of expressions leaves alone what they show and what the rule asks about them. The one
    question it may answer differently is whether an expression is an `expect` chain. -/
structure Rebuild.Keeps (r : Rebuild) : Prop where
  shown : ∀ (role : Role) (e : Expr), (Node.expr (r.expr e)).sightings role = (Node.expr e).sightings role
  string : ∀ e : Expr, (r.expr e).isString = e.isString
  named : ∀ (name : String) (e : Expr), (r.expr e).isNamed name = e.isNamed name
  unused : ∀ (o : Options) (e : Expr), (r.expr e).isUnused o = e.isUnused o
  expectBelow : ∀ e : Expr, (r.expr e).reachesExpect = e.reachesExpect
  shouldBelow : ∀ e : Expr, (r.expr e).reachesShould = e.reachesShould
  should : ∀ e : Expr, (r.expr e).isShouldChain = e.isShouldChain

/-! ### The parts of a rebuilt node -/

/-- The second node is the first with its children rebuilt. -/
structure Node.Parallel (r : Rebuild) (node parts : Node) : Prop where
  children : parts.children = node.children.map (Node.rebuild r)
  function : parts.isFunctionLike = node.isFunctionLike
  holds : ∀ role, parts.holdsDirectives role = node.holdsDirectives role
  own : ∀ role, parts.ownSighting? role = (node.ownSighting? role).map (Sighting.rebuild r)

variable {r : Rebuild}

theorem Item.node_rebuild (i : Item) : (i.rebuild r).node = i.node.rebuild r := by
  cases i <;> simp [Item.rebuild, Item.node, Node.rebuild]

attribute [local simp] Node.children Node.rebuild Program.rebuild Item.rebuild Stmt.rebuild Block.rebuild
  SwitchCase.rebuild CatchClause.rebuild ForHead.rebuild Declarator.rebuild Key.rebuild Property.rebuild Func.rebuild
  Param.rebuild Pattern.rebuild PatternField.rebuild Class.rebuild Member.rebuild Function.comp_def

theorem Expr.exists_parts (e : Expr) :
    ∃ parts, e.rebuild r = r.expr parts ∧ (Node.expr e).Parallel r (.expr parts) ∧
      ((∃ inner, parts = .paren inner) → ∃ inner, e = .paren inner) := by
  cases e with
  | paren inner =>
    refine ⟨_, by rw [Expr.rebuild], ?_, fun _ => ⟨inner, rfl⟩⟩
    exact ⟨by simp, rfl, fun _ => rfl, fun _ => rfl⟩
  | yieldExpr argument =>
    cases argument <;> refine ⟨_, by rw [Expr.rebuild], ?_, by simp⟩ <;>
      exact ⟨by simp, rfl, fun _ => rfl, fun _ => rfl⟩
  | _ =>
    refine ⟨_, by rw [Expr.rebuild], ?_, by simp⟩
    exact ⟨by simp, rfl, fun _ => rfl, fun _ => rfl⟩

theorem Stmt.children_rebuild (s : Stmt) : (s.rebuild r).children = s.children.map (Node.rebuild r) := by
  cases s with
  | returnStmt argument => cases argument <;> simp
  | ifStmt test consequent alternate => cases alternate <;> simp
  | tryStmt block handler finalizer => cases handler <;> cases finalizer <;> simp
  | forStmt init test update body => cases init <;> cases test <;> cases update <;> simp
  | namespaceDecl items => simp [Item.node_rebuild]
  | _ => simp

theorem Node.children_rebuild {node : Node} (other : ∀ e, node ≠ .expr e) :
    (node.rebuild r).children = node.children.map (Node.rebuild r) := by
  cases node with
  | expr e => exact absurd rfl (other e)
  | program p => cases p <;> simp
  | module items => simp [Item.node_rebuild]
  | script stmts => simp
  | stmt s => exact s.children_rebuild
  | item x | key x | pattern x | forHead x => cases x <;> simp
  | block x | param x => cases x; simp
  | func x =>
    obtain ⟨params, decorators, body⟩ := x
    cases body <;> simp
  | classBody x =>
    obtain ⟨decorators, members, superClass⟩ := x
    cases superClass <;> simp
  | declarator x =>
    obtain ⟨pattern, init⟩ := x
    cases init <;> simp
  | switchCase x =>
    obtain ⟨test, consequent⟩ := x
    cases test <;> simp
  | catchClause x =>
    obtain ⟨param, body⟩ := x
    cases param <;> simp
  | patternField x =>
    cases x with
    | shorthand value => cases value <;> simp
    | _ => simp
  | property x =>
    cases x with
    | getter key body => cases body <;> simp
    | setter key receiver param body => cases receiver <;> cases body <;> simp
    | _ => simp
  | member x =>
    cases x with
    | constructor key params body => cases body <;> simp
    | field key value decorators => cases value <;> simp
    | _ => simp

/-- A node other than an expression is rebuilt by rebuilding its children. -/
theorem Node.parallel_rebuild {node : Node} (other : ∀ e, node ≠ .expr e) : node.Parallel r (node.rebuild r) where
  children := children_rebuild other
  function := by
    cases node with
    | expr e => exact absurd rfl (other e)
    | block b => simp [isFunctionLike, scope?_block]
    | property x =>
      cases x with
      | getter key body => cases body <;> simp [isFunctionLike, scope?]
      | setter key receiver param body => cases receiver <;> cases body <;> simp [isFunctionLike, scope?]
      | _ => simp [isFunctionLike, scope?]
    | member x =>
      cases x with
      | constructor key params body => cases body <;> simp [isFunctionLike, scope?]
      | field key value decorators => cases value <;> simp [isFunctionLike, scope?]
      | _ => simp [isFunctionLike, scope?]
    | _ => rfl
  holds role := by cases node <;> rfl
  own role := by
    cases node with
    | stmt s =>
      cases s with
      | expr span e => simp [ownSighting?, Sighting.rebuild]
      | returnStmt argument => cases argument <;> simp [ownSighting?]
      | ifStmt test consequent alternate => cases alternate <;> simp [ownSighting?]
      | tryStmt block handler finalizer => cases handler <;> cases finalizer <;> simp [ownSighting?]
      | forStmt init test update body => cases init <;> cases test <;> cases update <;> simp [ownSighting?]
      | _ => simp [ownSighting?]
    | _ => rfl

/-! ### What the rule asks about a rebuilt expression -/

namespace Expr

theorem rebuild_yieldExpr (argument : Option Expr) :
    (Expr.yieldExpr argument).rebuild r = r.expr (.yieldExpr (argument.map (·.rebuild r))) := by
  cases argument <;> rw [Expr.rebuild] <;> rfl

theorem isString_rebuild (keeps : r.Keeps) (e : Expr) : (e.rebuild r).isString = e.isString := by
  fun_induction Expr.unparen e with
  | case1 inner ih => rw [Expr.rebuild, keeps.string, isString_paren, isString_paren, ih]
  | case2 e plain =>
    cases e with
    | paren inner => exact absurd rfl (plain inner)
    | yieldExpr argument =>
      rw [rebuild_yieldExpr]
      exact keeps.string _
    | _ =>
      rw [Expr.rebuild]
      exact keeps.string _

theorem isNamed_rebuild (keeps : r.Keeps) (name : String) (e : Expr) :
    (e.rebuild r).isNamed name = e.isNamed name := by
  fun_induction Expr.unparen e with
  | case1 inner ih => rw [Expr.rebuild, keeps.named, isNamed_paren, isNamed_paren, ih]
  | case2 e plain =>
    cases e with
    | paren inner => exact absurd rfl (plain inner)
    | yieldExpr argument =>
      rw [rebuild_yieldExpr]
      exact keeps.named name _
    | _ =>
      rw [Expr.rebuild]
      exact keeps.named name _

end Expr

theorem Key.isNamed_rebuild (keeps : r.Keeps) (name : String) (k : Key) :
    (k.rebuild r).isNamed name = k.isNamed name := by
  cases k with
  | computed e =>
    rw [Key.rebuild]
    exact e.isNamed_rebuild keeps name
  | _ => rw [Key.rebuild]

namespace Expr

theorem isUnused_rebuild (keeps : r.Keeps) (o : Options) (e : Expr) : (e.rebuild r).isUnused o = e.isUnused o := by
  cases e with
  | paren inner => rw [Expr.rebuild, keeps.unused, isUnused, isUnused, isUnused_rebuild keeps o inner]
  | logical op left right => rw [Expr.rebuild, keeps.unused, isUnused, isUnused, isUnused_rebuild keeps o right]
  | conditional test consequent alternate =>
    rw [Expr.rebuild, keeps.unused, isUnused, isUnused, isUnused_rebuild keeps o consequent,
      isUnused_rebuild keeps o alternate]
  | _ => simp only [rebuild_yieldExpr, Expr.rebuild, keeps.unused, isUnused]

theorem reachesExpect_rebuild (keeps : r.Keeps) (e : Expr) : (e.rebuild r).reachesExpect = e.reachesExpect := by
  cases e with
  | paren inner | member inner _ | optMember inner _ =>
    rw [Expr.rebuild, keeps.expectBelow, reachesExpect, reachesExpect, reachesExpect_rebuild keeps inner]
  | call callee args | optCall callee args =>
    rw [Expr.rebuild, keeps.expectBelow, reachesExpect, reachesExpect, isNamed_rebuild keeps,
      reachesExpect_rebuild keeps callee]
  | _ => simp only [rebuild_yieldExpr, Expr.rebuild, keeps.expectBelow, reachesExpect]

theorem reachesShould_rebuild (keeps : r.Keeps) (e : Expr) : (e.rebuild r).reachesShould = e.reachesShould := by
  cases e with
  | paren inner | call inner _ | optCall inner _ =>
    rw [Expr.rebuild, keeps.shouldBelow, reachesShould, reachesShould, reachesShould_rebuild keeps inner]
  | member obj key | optMember obj key =>
    rw [Expr.rebuild, keeps.shouldBelow, reachesShould, reachesShould, Key.isNamed_rebuild keeps,
      reachesShould_rebuild keeps obj]
  | superComputed key => rw [Expr.rebuild, keeps.shouldBelow, reachesShould, reachesShould, isNamed_rebuild keeps]
  | _ => simp only [rebuild_yieldExpr, Expr.rebuild, keeps.shouldBelow, reachesShould]

theorem isExpectChain_rebuild (keeps : r.Keeps) (kept : ∀ e, (r.expr e).isExpectChain = e.isExpectChain)
    (e : Expr) : (e.rebuild r).isExpectChain = e.isExpectChain := by
  fun_induction Expr.unparen e with
  | case1 inner ih => rw [Expr.rebuild, kept, isExpectChain_paren, isExpectChain_paren, ih]
  | case2 e plain =>
    cases e with
    | paren inner => exact absurd rfl (plain inner)
    | member obj key =>
      rw [Expr.rebuild, kept]
      exact obj.reachesExpect_rebuild keeps
    | yieldExpr argument =>
      rw [rebuild_yieldExpr]
      exact kept _
    | _ =>
      rw [Expr.rebuild]
      exact kept _

theorem isShouldChain_rebuild (keeps : r.Keeps) (e : Expr) : (e.rebuild r).isShouldChain = e.isShouldChain := by
  fun_induction Expr.unparen e with
  | case1 inner ih => rw [Expr.rebuild, keeps.should, isShouldChain_paren, isShouldChain_paren, ih]
  | case2 e plain =>
    cases e with
    | paren inner => exact absurd rfl (plain inner)
    | member obj key | optMember obj key =>
      rw [Expr.rebuild, keeps.should]
      exact obj.reachesShould_rebuild keeps
    | yieldExpr argument =>
      rw [rebuild_yieldExpr]
      exact keeps.should _
    | _ =>
      rw [Expr.rebuild]
      exact keeps.should _

end Expr

theorem Sighting.isValid_rebuild (keeps : r.Keeps) (kept : ∀ e, (r.expr e).isExpectChain = e.isExpectChain)
    (o : Options) (s : Sighting) : (s.rebuild r).isValid o = s.isValid o := by
  simp only [Sighting.isValid, Expr.isAcceptable, Sighting.rebuild, Expr.isUnused_rebuild keeps,
    Expr.isExpectChain_rebuild keeps kept, Expr.isShouldChain_rebuild keeps]

/-! ### What a rebuilt tree shows -/

namespace Node
variable {node parts : Node}

theorem isDirectiveLike_eq_any (node : Node) :
    node.isDirectiveLike = (node.ownSighting? .other).any fun s => s.expr.isString := by
  cases node with
  | stmt s => cases s <;> rfl
  | _ => rfl

theorem isDirectiveLike_rebuild (keeps : r.Keeps) (node : Node) :
    (node.rebuild r).isDirectiveLike = node.isDirectiveLike := by
  by_cases expression : ∃ e, node = .expr e
  · obtain ⟨e, rfl⟩ := expression
    rfl
  · have same : node.Parallel r (node.rebuild r) := parallel_rebuild fun e is => expression ⟨e, is⟩
    rw [isDirectiveLike_eq_any, isDirectiveLike_eq_any, same.own, Option.any_map]
    simp only [Sighting.rebuild, Expr.isString_rebuild keeps]

theorem Parallel.runLength (keeps : r.Keeps) (same : node.Parallel r parts) : parts.runLength = node.runLength := by
  have like : isDirectiveLike ∘ rebuild r = isDirectiveLike := funext (isDirectiveLike_rebuild keeps)
  rw [Node.runLength, Node.runLength, same.children, List.takeWhile_map, like, List.length_map]

/-- Rebuilding the children of a node keeps their roles. -/
theorem Parallel.childRole (keeps : r.Keeps) (same : node.Parallel r parts) (role : Role) (index : Nat) :
    parts.childRole role index = node.childRole role index := by
  rw [Node.childRole, Node.childRole, same.holds, same.function, same.runLength keeps]

theorem Parallel.sightings (keeps : r.Keeps) (same : node.Parallel r parts) (role : Role)
    (below : ∀ child ∈ node.children, ∀ role,
      (child.rebuild r).sightings role = (child.sightings role).map (Sighting.rebuild r)) :
    parts.sightings role = (node.sightings role).map (Sighting.rebuild r) := by
  rw [sightings_eq, sightings_eq, same.children, same.own, List.map_append, Option.toList_map, List.zipIdx_map,
    List.flatMap_map, List.map_flatMap]
  congr 1
  refine List.flatMap_congr fun x member => ?_
  rw [Prod.map_fst, Prod.map_snd, id, same.childRole keeps]
  exact below x.1 (mem_children_of_mem_zipIdx member) _

/-- A rebuilt tree shows the rebuilt statements of the tree. -/
theorem sightings_rebuild (keeps : r.Keeps) (node : Node) (role : Role) :
    (node.rebuild r).sightings role = (node.sightings role).map (Sighting.rebuild r) := by
  induction node using Node.induction generalizing role with | step node ih
  by_cases expression : ∃ e, node = .expr e
  · -- Only here is there a change after the parts are rebuilt, and it shows nothing else.
    obtain ⟨e, rfl⟩ := expression
    obtain ⟨parts, whole, same, -⟩ := e.exists_parts
    rw [rebuild, whole, keeps.shown]
    exact same.sightings keeps role ih
  · have other : ∀ e, node ≠ .expr e := fun e is => expression ⟨e, is⟩
    exact (parallel_rebuild other).sightings keeps role ih

end Node

theorem Program.lint_rebuild_eq_findings (keeps : r.Keeps) (p : Program) (setting : Setting) :
    (p.rebuild r).lint setting =
      setting.findings (((Node.program p).sightings .other).map (Sighting.rebuild r)) := by
  rw [lint_eq_findings, ← Node.sightings_rebuild keeps]
  rfl

theorem Setting.findings_rebuild (keeps : r.Keeps) (kept : ∀ e, (r.expr e).isExpectChain = e.isExpectChain)
    (setting : Setting) (seen : List Sighting) :
    setting.findings (seen.map (Sighting.rebuild r)) = (setting.findings seen).map (Diagnostic.rebuild r) := by
  have same : (fun s : Sighting => !s.isValid setting.options) ∘ Sighting.rebuild r =
      fun s => !s.isValid setting.options :=
    funext fun s => congrArg Bool.not (s.isValid_rebuild keeps kept setting.options)
  unfold findings
  split
  · rfl
  · rw [List.filter_map, same, List.map_map, List.map_map]
    rfl

/-- A rebuild that changes no answer of the rule changes only the spans of what is reported. -/
theorem Program.lint_rebuild (keeps : r.Keeps) (kept : ∀ e, (r.expr e).isExpectChain = e.isExpectChain)
    (p : Program) (setting : Setting) :
    (p.rebuild r).lint setting = (p.lint setting).map (Diagnostic.rebuild r) := by
  rw [lint_rebuild_eq_findings keeps, setting.findings_rebuild keeps kept, lint_eq_findings]

end UnusedExpr
