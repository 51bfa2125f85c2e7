import UnusedExpr.Proofs.Visits

/-! # Roles of nodes

Whether a statement is a directive is decided by the stack of scopes and by addresses. Here it is decided
without either, from the way in which the node above holds a node: its role. A block that a function-like
construct holds is its body, and the string statements that start a program or a body lead it.

The two agree at every node (`Fits`), because blocks and statements are only found under an expression where
a function or a static block has opened a scope: so a block with a function's scope innermost is the body of
that function. `Fits` is kept from a node to its children, and at an expression it asks nothing of the
stack. -/

namespace UnusedExpr

/-- How a node is held by the one above it, as far as directives go. -/
inductive Role where
  /-- In the run of string statements that starts a program or the body of a function. -/
  | leading
  /-- Directly under a construct whose body is a function body. -/
  | body
  | other
deriving DecidableEq, Repr

namespace Node

/-- Whether a node is a statement that consists of a string literal. -/
def isDirectiveLike : Node → Bool
  | .stmt s => s.isDirectiveLike
  | _ => false

/-- How many of the children form the run of string statements at the start. -/
def runLength (node : Node) : Nat :=
  (node.children.takeWhile isDirectiveLike).length

/-- Whether a node is a construct whose body is a function body. -/
def isFunctionLike (node : Node) : Bool :=
  node.scope? [] = some .function

/-- Whether the run of string statements at the start of a node consists of directives. -/
def holdsDirectives (role : Role) : Node → Bool
  | .module _ | .script _ => true
  | .block _ => role = .body
  | _ => false

/-- The role of a child, given that of the node. -/
def childRole (role : Role) (node : Node) (index : Nat) : Role :=
  if node.holdsDirectives role then if index < node.runLength then .leading else .other
  else if node.isFunctionLike then .body else .other

/-- Whether a node is an expression or a part of one, so that a statement lies under it only inside a function
    or a static block. -/
def isExpressionLevel : Node → Bool
  | .forHead _ | .declarator _ | .expr _ | .key _ | .property _ | .func _ | .param _ | .pattern _
  | .patternField _ | .classBody _ | .member _ => true
  | _ => false

end Node

/-- The stack at a statement: the statement is a directive just if it leads, and nothing under it is one unless
    another scope is opened. -/
structure Settled (role : Role) (scopes : List Scope) (address : Address) : Prop where
  inner : scopes.head? ≠ some .function
  own : isDirective scopes address = true ↔ role = .leading
  below : ∀ (steps : List Nat) (index : Nat), isDirective scopes (steps ++ index :: address) = false

/-- The stack at a node agrees with its role. -/
def Node.Fits (role : Role) (scopes : List Scope) (address : Address) : Node → Prop
  | .item _ | .stmt _ | .switchCase _ | .catchClause _ => Settled role scopes address
  | .block _ => scopes.head? = some .function ↔ role = .body
  | _ => True

/-! ### Leading runs -/

theorem Address.mem_first {address place : Address} {count : Nat} :
    place ∈ address.first count ↔ ∃ index < count, place = index :: address := by
  simp [Address.first, eq_comm]

theorem Address.contains_first_cons {address : Address} {count index : Nat} :
    (address.first count).contains (index :: address) = true ↔ index < count := by
  simp [Address.mem_first]

theorem Address.contains_first_below (address : Address) (count : Nat) (steps : List Nat) (index next : Nat) :
    (address.first count).contains (steps ++ next :: index :: address) = false := by
  rw [List.contains_eq_mem, decide_eq_false_iff_not, Address.mem_first]
  rintro ⟨k, -, same⟩
  have lengths := congrArg List.length same
  simp at lengths
  omega

namespace Node

theorem runLength_of_stmts {node : Node} {stmts : List Stmt} (children : node.children = stmts.map .stmt) :
    node.runLength = (stmts.takeWhile Stmt.isDirectiveLike).length := by
  have same : isDirectiveLike ∘ Node.stmt = Stmt.isDirectiveLike := rfl
  rw [runLength, children, List.takeWhile_map, same, List.length_map]

theorem runLength_module (items : List Item) :
    (Node.module items).runLength = (items.takeWhile Item.isDirectiveLike).length := by
  have same : isDirectiveLike ∘ Item.node = Item.isDirectiveLike := by
    funext item
    cases item <;> rfl
  rw [runLength, children, List.takeWhile_map, same, List.length_map]

theorem scope?_module (items : List Item) (address : Address) :
    (Node.module items).scope? address = some (.program (address.first (Node.module items).runLength)) := by
  rw [scope?, Scope.modulePrologue, runLength_module]

theorem scope?_script (stmts : List Stmt) (address : Address) :
    (Node.script stmts).scope? address = some (.program (address.first (Node.script stmts).runLength)) := by
  rw [scope?, Scope.prologue, runLength_of_stmts rfl]

theorem scope?_block (block : Block) (address : Address) :
    (Node.block block).scope? address = some (.block (address.first (Node.block block).runLength)) := by
  cases block
  rw [scope?, Scope.prologue, runLength_of_stmts rfl]

theorem scope?_eq_function_iff (node : Node) (address : Address) :
    node.scope? address = some .function ↔ node.isFunctionLike = true := by
  rw [isFunctionLike, decide_eq_true_iff]
  unfold scope?
  split <;> simp

end Node

/-! ### Directives by scope -/

theorem isDirective_program (run : List Address) (scopes : List Scope) (address : Address) :
    isDirective (.program run :: scopes) address = run.contains address := rfl

theorem isDirective_block_of_function {scopes : List Scope} (inner : scopes.head? = some .function)
    (run : List Address) (address : Address) : isDirective (.block run :: scopes) address = run.contains address := by
  obtain ⟨rest, rfl⟩ := List.head?_eq_some_iff.mp inner
  rfl

theorem isDirective_block_of_ne {scopes : List Scope} (inner : scopes.head? ≠ some .function)
    (run : List Address) (address : Address) : isDirective (.block run :: scopes) address = false := by
  unfold isDirective
  split
  · simp_all
  · simp_all
  · rfl

namespace Settled
variable {role : Role} {scopes : List Scope} {address : Address}

/-- Inside a statement that opens no scope, nothing leads. -/
theorem child (settled : Settled role scopes address) (index : Nat) : Settled .other scopes (index :: address) where
  inner := settled.inner
  own := by
    have none : isDirective scopes (index :: address) = false := settled.below [] index
    simp [none]
  below steps next := by simpa using settled.below (steps ++ [next]) index

/-- Under a scope that answers for a run, the run leads. -/
theorem of_run {scope : Scope} {count : Nat} (inner : scope ≠ .function)
    (answers : ∀ place, isDirective (scope :: scopes) place = (address.first count).contains place) (index : Nat) :
    Settled (if index < count then .leading else .other) (scope :: scopes) (index :: address) where
  inner := by simpa using inner
  own := by
    rw [answers, Address.contains_first_cons]
    split <;> simp_all
  below steps next := by rw [answers, Address.contains_first_below]

/-- In a block that is no body, nothing leads. -/
theorem of_block (inner : scopes.head? ≠ some .function) (run : List Address) (index : Nat) :
    Settled .other (.block run :: scopes) (index :: address) where
  inner := by simp
  own := by simp [isDirective_block_of_ne inner]
  below _ _ := isDirective_block_of_ne inner _ _

end Settled

/-! ### From a node to its children -/

namespace Node
variable {node child : Node} {role : Role} {scopes : List Scope} {address : Address} {index : Nat}

attribute [local grind =] isExpressionLevel

/-- Under an expression there are only parts of it, and the blocks of functions and of static blocks. -/
theorem mem_children_of_isExpressionLevel (level : node.isExpressionLevel = true) (member : child ∈ node.children) :
    child.isExpressionLevel = true ∨
      (∃ block, child = .block block) ∧ (node.isFunctionLike = true ∨ ∃ body, node = .member (.staticBlock body)) := by
  cases node with
  | program | module | script | item | stmt | block | switchCase | catchClause => cases level
  | declarator x | func x | param x | classBody x => cases x; grind [isFunctionLike, scope?]
  | forHead x | expr x | key x | property x | pattern x | patternField x | member x =>
    cases x <;> grind [isFunctionLike, scope?]

/-- Where a statement settles the stack, any node in its place fits, since it is no body. -/
theorem fits_of_settled (settled : Settled role scopes address) (plain : role ≠ .body) (node : Node) :
    node.Fits role scopes address := by
  cases node with
  | item | stmt | switchCase | catchClause => exact settled
  | block => exact iff_of_false settled.inner plain
  | _ => trivial

theorem childRole_of_holdsDirectives (holds : node.holdsDirectives role = true) :
    node.childRole role index = if index < node.runLength then .leading else .other := by
  rw [childRole, holds, if_pos rfl]

theorem innerScopes_of_scope? {scope : Scope} (opened : node.scope? address = some scope) :
    node.innerScopes scopes address = scope :: scopes := by
  rw [innerScopes, opened]
  rfl

/-- The children of a node whose leading statements are directives. -/
theorem fits_child_of_run {scope : Scope} (holds : node.holdsDirectives role = true)
    (opened : node.scope? address = some scope) (inner : scope ≠ .function)
    (answers : ∀ place, isDirective (scope :: scopes) place = (address.first node.runLength).contains place)
    (child : Node) (index : Nat) :
    child.Fits (node.childRole role index) (node.innerScopes scopes address) (index :: address) := by
  rw [childRole_of_holdsDirectives holds, innerScopes_of_scope? opened]
  exact fits_of_settled (Settled.of_run inner answers index) (by split <;> simp) child

theorem fits_child_of_block {block : Block} (fits : (Node.block block).Fits role scopes address) (child : Node)
    (index : Nat) :
    child.Fits ((Node.block block).childRole role index) ((Node.block block).innerScopes scopes address)
      (index :: address) := by
  by_cases body : role = .body
  · have holds : (Node.block block).holdsDirectives role = true := by simpa [holdsDirectives] using body
    exact fits_child_of_run holds (scope?_block block address) (by simp)
      (isDirective_block_of_function (fits.mpr body) _) child index
  · have plain : (Node.block block).childRole role index = .other := by
      simp [childRole, holdsDirectives, body, isFunctionLike, scope?_block]
    rw [plain, innerScopes_of_scope? (scope?_block block address)]
    exact fits_of_settled (Settled.of_block (fun inner => body (fits.mp inner)) _ index) (by simp) child

theorem fits_child_of_isExpressionLevel (level : node.isExpressionLevel = true) (member : child ∈ node.children) :
    child.Fits (node.childRole role index) (node.innerScopes scopes address) (index :: address) := by
  have held : node.childRole role index = if node.isFunctionLike then .body else .other := by
    cases node <;> first | rfl | cases level
  rcases mem_children_of_isExpressionLevel level member with deeper | ⟨⟨block, rfl⟩, function | ⟨body, rfl⟩⟩
  · cases child <;> trivial
  · rw [held, function, innerScopes_of_scope? ((scope?_eq_function_iff node address).mpr function)]
    exact iff_of_true rfl rfl
  · exact iff_of_false (by simp [innerScopes, scope?]) (by simp [held, isFunctionLike, scope?])

/-- The stack agrees with the roles of the children if it agrees with that of the node. -/
theorem fits_child (fits : node.Fits role scopes address) (found : node.children[index]? = some child) :
    child.Fits (node.childRole role index) (node.innerScopes scopes address) (index :: address) := by
  have member := List.mem_of_getElem? found
  cases node with
  | program p =>
    cases p <;> obtain rfl := List.mem_singleton.mp member <;> trivial
  | module items =>
    exact fits_child_of_run rfl (scope?_module items address) (by simp) (isDirective_program _ _) child index
  | script stmts =>
    exact fits_child_of_run rfl (scope?_script stmts address) (by simp) (isDirective_program _ _) child index
  | block block => exact fits_child_of_block fits child index
  | item | stmt | switchCase | catchClause =>
    -- No scope is opened, so the stack stays and nothing leads.
    exact fits_of_settled (Settled.child fits index) (by simp) child
  | forHead | declarator | expr | key | property | func | param | pattern | patternField | classBody | member =>
    exact fits_child_of_isExpressionLevel rfl member

end Node

end UnusedExpr
