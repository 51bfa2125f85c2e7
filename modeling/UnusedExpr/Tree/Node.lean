import UnusedExpr.Tree.Basic

/-!
# Nodes and their children

A node is a tree of any kind. `Node.children` lists what lies directly under it, in the order in which a
walk goes through it. That is mostly the order of the text; but the super class comes after the members of
a class, the decorators of a function after its parameters and those of a field after its value, and the
test of a `do` loop before its body.
-/

namespace UnusedExpr

inductive Node where
  | program (program : Program)
  | module (items : List Item)
  | script (stmts : List Stmt)
  | item (item : Item)
  | stmt (stmt : Stmt)
  | block (block : Block)
  | switchCase (case : SwitchCase)
  | catchClause (clause : CatchClause)
  | forHead (head : ForHead)
  | declarator (declarator : Declarator)
  | expr (expr : Expr)
  | key (key : Key)
  | property (property : Property)
  | func (func : Func)
  | param (param : Param)
  | pattern (pattern : Pattern)
  | patternField (field : PatternField)
  | classBody (body : Class)
  | member (member : Member)

/-- The node of an item. A statement among the items is a statement like any other. -/
def Item.node : Item → Node
  | .stmt s => .stmt s
  | i => .item i

/-! ### Children by kind

`simp` and `grind` know the equations of these functions; `Node.children` is left to be opened where the kind
of a node is known. -/

@[simp, grind =] def Program.children : Program → List Node
  | .module items => [.module items]
  | .script stmts => [.script stmts]

@[simp, grind =] def Expr.children : Expr → List Node
  | .string _ | .literal _ | .ident _ | .thisExpr | .metaProperty | .superMember _ => []
  | .jsxName | .privateName _ | .invalid => []
  | .paren e | .superComputed e | .unary _ e | .update e | .awaitExpr e | .typed e => [.expr e]
  | .yieldExpr e => e.toList.map .expr
  | .member e key | .optMember e key => [.expr e, .key key]
  | .call callee args | .optCall callee args | .newCall callee args => .expr callee :: args.map .expr
  | .superCall es | .importCall es | .array es | .sequence es | .template es | .jsxFragment es => es.map .expr
  | .taggedTemplate tag es => .expr tag :: es.map .expr
  | .jsxElement attributes es => attributes.map .expr ++ es.map .expr
  | .object properties => properties.map .property
  | .function func => [.func func]
  | .arrow params body => params.map .pattern ++ [.block body]
  | .conciseArrow params body => params.map .pattern ++ [.expr body]
  | .classExpr body => [.classBody body]
  | .logical _ left right | .binary left right => [.expr left, .expr right]
  | .assign target value => [.pattern target, .expr value]
  | .conditional test consequent alternate => [.expr test, .expr consequent, .expr alternate]

@[simp, grind =] def Key.children : Key → List Node
  | .name _ | .privateName _ | .literal => []
  | .computed e => [.expr e]

@[simp, grind =] def Pattern.children : Pattern → List Node
  | .ident => []
  | .target e => [.expr e]
  | .array elements => elements.map .pattern
  | .object fields => fields.map .patternField
  | .rest inner => [.pattern inner]
  | .withDefault inner value => [.pattern inner, .expr value]

@[simp, grind =] def PatternField.children : PatternField → List Node
  | .keyed key value => [.key key, .pattern value]
  | .shorthand value => value.toList.map .expr
  | .rest inner => [.pattern inner]

@[simp, grind =] def Property.children : Property → List Node
  | .shorthand => []
  | .keyed key value => [.key key, .expr value]
  | .getter key body => .key key :: body.toList.map .block
  | .setter key receiver param body =>
    .key key :: (receiver.toList.map .pattern ++ .pattern param :: body.toList.map .block)
  | .method key func => [.key key, .func func]
  | .spread inner => [.expr inner]

@[simp, grind =] def Param.children : Param → List Node
  | .mk decorators pattern => decorators.map .expr ++ [.pattern pattern]

@[simp, grind =] def Func.children : Func → List Node
  | .mk params decorators body => params.map .param ++ decorators.map .expr ++ body.toList.map .block

@[simp, grind =] def Class.children : Class → List Node
  | .mk decorators members superClass =>
    decorators.map .expr ++ members.map .member ++ superClass.toList.map .expr

@[simp, grind =] def Member.children : Member → List Node
  | .constructor key params body => .key key :: (params.map .param ++ body.toList.map .block)
  | .method key func => [.key key, .func func]
  | .field key value decorators => .key key :: (value.toList.map .expr ++ decorators.map .expr)
  | .staticBlock body => [.block body]
  | .inert => []

@[simp, grind =] def Block.children : Block → List Node
  | .mk stmts => stmts.map .stmt

@[simp, grind =] def Stmt.children : Stmt → List Node
  | .empty | .debuggerStmt | .breakStmt | .continueStmt | .typeDecl => []
  | .expr _ e | .throwStmt e => [.expr e]
  | .block body => [.block body]
  | .withStmt e body | .whileStmt e body | .doWhileStmt e body => [.expr e, .stmt body]
  | .returnStmt argument => argument.toList.map .expr
  | .labeled body => [.stmt body]
  | .ifStmt test consequent alternate => .expr test :: .stmt consequent :: alternate.toList.map .stmt
  | .switchStmt discriminant cases => .expr discriminant :: cases.map .switchCase
  | .tryStmt body handler finalizer =>
    .block body :: (handler.toList.map .catchClause ++ finalizer.toList.map .block)
  | .forStmt init test update body =>
    init.toList.map .forHead ++ test.toList.map .expr ++ update.toList.map .expr ++ [.stmt body]
  | .forEachStmt head source body => [.forHead head, .expr source, .stmt body]
  | .function func => [.func func]
  | .classDecl body => [.classBody body]
  | .variables declarators => declarators.map .declarator
  | .enumDecl values => values.map .expr
  | .namespaceDecl items => items.map Item.node

@[simp, grind =] def ForHead.children : ForHead → List Node
  | .variables declarators => declarators.map .declarator
  | .expr e => [.expr e]
  | .pattern p => [.pattern p]

@[simp, grind =] def Declarator.children : Declarator → List Node
  | .mk pattern init => .pattern pattern :: init.toList.map .expr

@[simp, grind =] def SwitchCase.children : SwitchCase → List Node
  | .mk test consequent => test.toList.map .expr ++ consequent.map .stmt

@[simp, grind =] def CatchClause.children : CatchClause → List Node
  | .mk param body => param.toList.map .pattern ++ [.block body]

@[simp, grind =] def Item.children : Item → List Node
  | .stmt s | .exportDecl s => [.stmt s]
  | .exportDefault e | .exportAssign e => [.expr e]
  | .link attributes => attributes.map .property
  | .inert => []

namespace Node

/-- What lies directly under a node, in the order of a walk. -/
@[grind =] def children : Node → List Node
  | .program p => p.children
  | .module items => items.map Item.node
  | .script stmts => stmts.map .stmt
  | .item i => i.children
  | .stmt s => s.children
  | .block b => b.children
  | .switchCase c => c.children
  | .catchClause c => c.children
  | .forHead h => h.children
  | .declarator d => d.children
  | .expr e => e.children
  | .key k => k.children
  | .property p => p.children
  | .func f => f.children
  | .param p => p.children
  | .pattern p => p.children
  | .patternField f => f.children
  | .classBody c => c.children
  | .member m => m.children

/-! ### Children are smaller -/

theorem sizeOf_lt_of_mem_toList {α : Type} [SizeOf α] {x : α} {o : Option α} (mem : x ∈ o.toList) :
    sizeOf x < sizeOf o := by
  obtain rfl := Option.mem_toList.mp mem
  simp

theorem sizeOf_node_lt_of_mem {i : Item} {items : List Item} (mem : i ∈ items) :
    sizeOf i.node < 1 + sizeOf items := by
  have smaller := List.sizeOf_lt_of_mem mem
  cases i <;> grind [Item.node]

attribute [local grind →] List.sizeOf_lt_of_mem sizeOf_lt_of_mem_toList sizeOf_node_lt_of_mem

/-- A walk ends, since each step down leads to a smaller tree. -/
theorem sizeOf_lt_of_mem_children {node child : Node} (mem : child ∈ node.children) :
    sizeOf child < sizeOf node := by
  cases node with
  | module | script => grind
  | block x | switchCase x | catchClause x | declarator x | func x | param x | classBody x => cases x; grind
  | program x | item x | stmt x | forHead x | expr x | key x | property x | pattern x | patternField x
  | member x => cases x <;> grind

/-- What holds of a node whenever it holds of its children holds of every node. -/
theorem induction {motive : Node → Prop}
    (step : ∀ node, (∀ child ∈ node.children, motive child) → motive node) (node : Node) : motive node :=
  step node fun child _ => induction step child
termination_by sizeOf node
decreasing_by exact sizeOf_lt_of_mem_children ‹_›

end Node

end UnusedExpr
