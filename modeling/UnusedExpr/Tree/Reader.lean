import UnusedExpr.Json.Basic
import UnusedExpr.Tree.Node

/-!
# Reading trees

A parser hands over its trees as JSON objects that tell their kind in a field `type`. A missing field
stands for nothing, for no elements or for `false`. A field is read once, and only where the kind calls for
it, so that reading takes time in proportion to the tree. `fuel` bounds the number of nested readers; at
most four of them look at the same value, so a multiple of the depth is enough.
-/

namespace UnusedExpr.Tree.Reader

/-! ### Fields -/

/-- The kind of a node, or an empty text if it tells none. -/
def kind (j : Json) : String :=
  ((j.get? "type").bind Json.string?).getD ""

/-- The value of a field, unless it is missing or null. -/
def present? (j : Json) (key : String) : Option Json :=
  match j.get? key with
  | none | some .null => none
  | value => value

variable {α : Type}

def field (read : Json → Option α) (j : Json) (key : String) : Option α := do
  read (← present? j key)

def optional (read : Json → Option α) (j : Json) (key : String) : Option (Option α) :=
  match present? j key with
  | none => some none
  | some value => (read value).map some

def isNull : Json → Bool
  | .null => true
  | _ => false

/-- A list, without the elements that are null. -/
def list (read : Json → Option α) (j : Json) (key : String) : Option (List α) :=
  match present? j key with
  | none => some []
  | some (.array elements) => (elements.filter fun element => !isNull element).mapM read
  | some _ => none

def text (j : Json) (key : String) : Option String :=
  field Json.string? j key

def span (j : Json) : Option Span :=
  field (fun s => do some ⟨← field Json.nat? s "start", ← field Json.nat? s "end"⟩) j "span"

/-! ### Operators and literals -/

def unaryOp? : String → Option UnaryOp
  | "-" => some .minus
  | "+" => some .plus
  | "!" => some .not
  | "~" => some .bitNot
  | "typeof" => some .typeOf
  | "void" => some .void
  | "delete" => some .delete
  | _ => none

def logicalOp? : String → Option LogicalOp
  | "&&" => some .and
  | "||" => some .or
  | "??" => some .coalesce
  | _ => none

def literal? : String → Option Literal
  | "NullLiteral" => some .null
  | "BooleanLiteral" => some .boolean
  | "NumericLiteral" => some .number
  | "BigIntLiteral" => some .bigInt
  | "RegExpLiteral" => some .regExp
  | "JSXText" => some .jsxText
  | _ => none

/-! ### Nodes -/

mutual

def expr : Nat → Json → Option Expr
  | 0, _ => none
  | fuel + 1, j =>
    let inner (key : String) := field (expr fuel) j key
    let exprs (key : String) := list (expr fuel) j key
    let args (key : String) := list (argument fuel) j key
    match kind j with
    | "ParenthesisExpression" => do some (.paren (← inner "expression"))
    | "StringLiteral" => do some (.string (← text j "value"))
    | "Identifier" => do some (.ident (← text j "value"))
    | "ThisExpression" => some .thisExpr
    | "MetaProperty" => some .metaProperty
    | "MemberExpression" => do some (.member (← inner "object") (← field (key fuel) j "property"))
    | "SuperPropExpression" => field (superProperty fuel) j "property"
    | "CallExpression" => do
      let callee ← present? j "callee"
      match kind callee with
      | "Super" => some (.superCall (← args "arguments"))
      | "Import" => some (.importCall (← args "arguments"))
      | _ => some (.call (← expr fuel callee) (← args "arguments"))
    | "OptionalChainingExpression" => do
      match ← inner "base" with
      | .member object key => some (.optMember object key)
      | .call callee args => some (.optCall callee args)
      | _ => none
    | "NewExpression" => do some (.newCall (← inner "callee") (← args "arguments"))
    | "ArrayExpression" => do some (.array (← args "elements"))
    | "ObjectExpression" => do some (.object (← properties fuel j))
    | "FunctionExpression" => do some (.function (← func fuel j))
    | "ArrowFunctionExpression" => do
      let params ← list (pattern fuel) j "params"
      let body ← present? j "body"
      if kind body = "BlockStatement" then some (.arrow params (← block fuel body))
      else some (.conciseArrow params (← expr fuel body))
    | "ClassExpression" => do some (.classExpr (← classBody fuel j))
    | "UnaryExpression" => do some (.unary (← unaryOp? (← text j "operator")) (← inner "argument"))
    | "UpdateExpression" => do some (.update (← inner "argument"))
    | "BinaryExpression" => do
      let left ← inner "left"
      let right ← inner "right"
      match logicalOp? (← text j "operator") with
      | some op => some (.logical op left right)
      | none => some (.binary left right)
    | "AssignmentExpression" => do some (.assign (← field (pattern fuel) j "left") (← inner "right"))
    | "ConditionalExpression" => do
      some (.conditional (← inner "test") (← inner "consequent") (← inner "alternate"))
    | "SequenceExpression" => do some (.sequence (← exprs "expressions"))
    | "TemplateLiteral" => do some (.template (← exprs "expressions"))
    | "TaggedTemplateExpression" => do
      match ← inner "template" with
      | .template expressions => some (.taggedTemplate (← inner "tag") expressions)
      | _ => none
    | "YieldExpression" => do some (.yieldExpr (← optional (expr fuel) j "argument"))
    | "AwaitExpression" => do some (.awaitExpr (← inner "argument"))
    | "JSXElement" => do
      let attributes ← field (fun opening => list (jsxAttribute fuel) opening "attributes") j "opening"
      some (.jsxElement attributes.flatten (← list (jsxPart fuel) j "children"))
    | "JSXFragment" => do some (.jsxFragment (← list (jsxPart fuel) j "children"))
    | "JSXMemberExpression" | "JSXNamespacedName" | "JSXEmptyExpression" => some .jsxName
    | "TsAsExpression" | "TsTypeAssertion" | "TsConstAssertion" | "TsNonNullExpression"
    | "TsSatisfiesExpression" | "TsInstantiation" => do some (.typed (← inner "expression"))
    | "PrivateName" => do some (.privateName (← text j "value"))
    | "Invalid" => some .invalid
    | other => do some (.literal (← literal? other))

/-- An argument of a call or an element of an array, spread or not. -/
def argument : Nat → Json → Option Expr
  | 0, _ => none
  | fuel + 1, j => field (expr fuel) j "expression"

/-- The access to a property of `super`. -/
def superProperty : Nat → Json → Option Expr
  | 0, _ => none
  | fuel + 1, j =>
    if kind j = "Computed" then do some (.superComputed (← field (expr fuel) j "expression"))
    else do some (.superMember (← text j "value"))

/-- The value of an attribute, if it has one, or the object of a spread attribute. -/
def jsxAttribute : Nat → Json → Option (List Expr)
  | 0, _ => none
  | fuel + 1, j =>
    if kind j = "SpreadElement" then do some [← field (expr fuel) j "arguments"]
    else do some (← optional (jsxPart fuel) j "value").toList

/-- A child of an element, or the value of an attribute. -/
def jsxPart : Nat → Json → Option Expr
  | 0, _ => none
  | fuel + 1, j =>
    match kind j with
    | "JSXExpressionContainer" | "JSXSpreadChild" => field (expr fuel) j "expression"
    | _ => expr fuel j

def key : Nat → Json → Option Key
  | 0, _ => none
  | fuel + 1, j =>
    match kind j with
    | "Identifier" => do some (.name (← text j "value"))
    | "PrivateName" => do some (.privateName (← text j "value"))
    | "Computed" => do some (.computed (← field (expr fuel) j "expression"))
    | "StringLiteral" | "NumericLiteral" | "BigIntLiteral" => some .literal
    | _ => none

def properties : Nat → Json → Option (List Property)
  | 0, _ => none
  | fuel + 1, j => list (property fuel) j "properties"

def property : Nat → Json → Option Property
  | 0, _ => none
  | fuel + 1, j =>
    let keyOf (name : String) := field (key fuel) j name
    match kind j with
    | "Identifier" => some .shorthand
    | "KeyValueProperty" | "AssignmentProperty" => do
      some (.keyed (← keyOf "key") (← field (expr fuel) j "value"))
    | "GetterProperty" => do some (.getter (← keyOf "key") (← optional (block fuel) j "body"))
    | "SetterProperty" => do
      let receiver ← optional (pattern fuel) j "thisParam"
      some (.setter (← keyOf "key") receiver (← field (pattern fuel) j "param") (← optional (block fuel) j "body"))
    | "MethodProperty" => do some (.method (← keyOf "key") (← func fuel j))
    | "SpreadElement" => do some (.spread (← field (expr fuel) j "arguments"))
    | _ => none

def pattern : Nat → Json → Option Pattern
  | 0, _ => none
  | fuel + 1, j =>
    match kind j with
    | "Identifier" => some .ident
    | "ArrayPattern" => do some (.array (← list (pattern fuel) j "elements"))
    | "ObjectPattern" => do some (.object (← list (patternField fuel) j "properties"))
    | "RestElement" => do some (.rest (← field (pattern fuel) j "argument"))
    | "AssignmentPattern" => do
      some (.withDefault (← field (pattern fuel) j "left") (← field (expr fuel) j "right"))
    | _ => do some (.target (← expr fuel j))

def patternField : Nat → Json → Option PatternField
  | 0, _ => none
  | fuel + 1, j =>
    match kind j with
    | "KeyValuePatternProperty" => do
      some (.keyed (← field (key fuel) j "key") (← field (pattern fuel) j "value"))
    | "AssignmentPatternProperty" => do some (.shorthand (← optional (expr fuel) j "value"))
    | "RestElement" => do some (.rest (← field (pattern fuel) j "argument"))
    | _ => none

def decorators : Nat → Json → Option (List Expr)
  | 0, _ => none
  | fuel + 1, j => list (fun decorator => field (expr fuel) decorator "expression") j "decorators"

def param : Nat → Json → Option Param
  | 0, _ => none
  | fuel + 1, j =>
    let itsPattern := if kind j = "TsParameterProperty" then "param" else "pat"
    do some (.mk (← decorators fuel j) (← field (pattern fuel) j itsPattern))

def func : Nat → Json → Option Func
  | 0, _ => none
  | fuel + 1, j => do
    let params ← list (param fuel) j "params"
    some (.mk params (← decorators fuel j) (← optional (block fuel) j "body"))

def classBody : Nat → Json → Option Class
  | 0, _ => none
  | fuel + 1, j => do
    let members ← list (member fuel) j "body"
    some (.mk (← decorators fuel j) members (← optional (expr fuel) j "superClass"))

def member : Nat → Json → Option Member
  | 0, _ => none
  | fuel + 1, j =>
    let keyOf (name : String) := field (key fuel) j name
    match kind j with
    | "Constructor" => do
      let params ← list (param fuel) j "params"
      some (.constructor (← keyOf "key") params (← optional (block fuel) j "body"))
    | "ClassMethod" | "PrivateMethod" => do
      some (.method (← keyOf "key") (← field (func fuel) j "function"))
    | "ClassProperty" | "PrivateProperty" | "AutoAccessor" => do
      some (.field (← keyOf "key") (← optional (expr fuel) j "value") (← decorators fuel j))
    | "StaticBlock" => do some (.staticBlock (← field (block fuel) j "body"))
    | "EmptyStatement" | "TsIndexSignature" => some .inert
    | _ => none

def block : Nat → Json → Option Block
  | 0, _ => none
  | fuel + 1, j => do some (.mk (← list (stmt fuel) j "stmts"))

def declarators : Nat → Json → String → Option (List Declarator)
  | 0, _, _ => none
  | fuel + 1, j, name =>
    list (fun d => do some (.mk (← field (pattern fuel) d "id") (← optional (expr fuel) d "init"))) j name

def stmt : Nat → Json → Option Stmt
  | 0, _ => none
  | fuel + 1, j =>
    let inner (key : String) := field (expr fuel) j key
    let inside (key : String) := field (stmt fuel) j key
    match kind j with
    | "ExpressionStatement" => do some (.expr (← span j) (← inner "expression"))
    | "BlockStatement" => do some (.block (← block fuel j))
    | "EmptyStatement" => some .empty
    | "DebuggerStatement" => some .debuggerStmt
    | "BreakStatement" => some .breakStmt
    | "ContinueStatement" => some .continueStmt
    | "WithStatement" => do some (.withStmt (← inner "object") (← inside "body"))
    | "ReturnStatement" => do some (.returnStmt (← optional (expr fuel) j "argument"))
    | "ThrowStatement" => do some (.throwStmt (← inner "argument"))
    | "LabeledStatement" => do some (.labeled (← inside "body"))
    | "IfStatement" => do
      some (.ifStmt (← inner "test") (← inside "consequent") (← optional (stmt fuel) j "alternate"))
    | "SwitchStatement" => do
      some (.switchStmt (← inner "discriminant") (← list (switchCase fuel) j "cases"))
    | "TryStatement" => do
      let handler ← optional (catchClause fuel) j "handler"
      some (.tryStmt (← field (block fuel) j "block") handler (← optional (block fuel) j "finalizer"))
    | "WhileStatement" => do some (.whileStmt (← inner "test") (← inside "body"))
    | "DoWhileStatement" => do some (.doWhileStmt (← inner "test") (← inside "body"))
    | "ForStatement" => do
      let init ← optional (forHead fuel fun e => (expr fuel e).map .expr) j "init"
      let test ← optional (expr fuel) j "test"
      some (.forStmt init test (← optional (expr fuel) j "update") (← inside "body"))
    | "ForInStatement" | "ForOfStatement" => do
      let head ← field (forHead fuel fun p => (pattern fuel p).map .pattern) j "left"
      some (.forEachStmt head (← inner "right") (← inside "body"))
    | "FunctionDeclaration" => do some (.function (← func fuel j))
    | "ClassDeclaration" => do some (.classDecl (← classBody fuel j))
    | "VariableDeclaration" => do some (.variables (← declarators fuel j "declarations"))
    | "UsingDeclaration" => do some (.variables (← declarators fuel j "decls"))
    | "TsEnumDeclaration" => do
      let values ← list (fun m => optional (expr fuel) m "init") j "members"
      some (.enumDecl (values.filterMap fun value => value))
    | "TsModuleDeclaration" => do
      some (.namespaceDecl ((← optional (namespaceItems fuel) j "body").getD []))
    | "TsInterfaceDeclaration" | "TsTypeAliasDeclaration" => some .typeDecl
    | _ => none

def switchCase : Nat → Json → Option SwitchCase
  | 0, _ => none
  | fuel + 1, j => do some (.mk (← optional (expr fuel) j "test") (← list (stmt fuel) j "consequent"))

def catchClause : Nat → Json → Option CatchClause
  | 0, _ => none
  | fuel + 1, j => do some (.mk (← optional (pattern fuel) j "param") (← field (block fuel) j "body"))

/-- The first part of a loop's head: declarations, or what `other` reads. -/
def forHead : Nat → (Json → Option ForHead) → Json → Option ForHead
  | 0, _, _ => none
  | fuel + 1, other, j =>
    match kind j with
    | "VariableDeclaration" => do some (.variables (← declarators fuel j "declarations"))
    | "UsingDeclaration" => do some (.variables (← declarators fuel j "decls"))
    | _ => other j

/-- The items of a namespace, inside any further namespaces that its dotted name stands for. -/
def namespaceItems : Nat → Json → Option (List Item)
  | 0, _ => none
  | fuel + 1, j =>
    if kind j = "TsNamespaceDeclaration" then field (namespaceItems fuel) j "body"
    else list (item fuel) j "body"

def item : Nat → Json → Option Item
  | 0, _ => none
  | fuel + 1, j =>
    match kind j with
    | "ExportDeclaration" => do some (.exportDecl (← field (stmt fuel) j "declaration"))
    | "ExportDefaultExpression" => do some (.exportDefault (← field (expr fuel) j "expression"))
    | "ExportDefaultDeclaration" => do
      let declaration ← present? j "decl"
      if kind declaration = "TsInterfaceDeclaration" then some .inert
      else some (.exportDefault (← expr fuel declaration))
    | "TsExportAssignment" => do some (.exportAssign (← field (expr fuel) j "expression"))
    | "ImportDeclaration" | "ExportAllDeclaration" | "ExportNamedDeclaration" => do
      some (.link ((← optional (properties fuel) j "with").getD []))
    | "TsImportEqualsDeclaration" | "TsNamespaceExportDeclaration" => some .inert
    | _ => do some (.stmt (← stmt fuel j))

end

/-- Fuel for all that a value holds. -/
def fuel (j : Json) : Nat :=
  5 * j.depth

def moduleItems (j : Json) : Option (List Item) :=
  list (item (fuel j)) j "body"

def scriptStmts (j : Json) : Option (List Stmt) :=
  list (stmt (fuel j)) j "body"

end UnusedExpr.Tree.Reader

namespace UnusedExpr

open Tree.Reader

def Program.ofJson? (j : Json) : Option Program :=
  match kind j with
  | "Module" => (moduleItems j).map .module
  | "Script" => (scriptStmts j).map .script
  | _ => none

def Stmt.ofJson? (j : Json) : Option Stmt :=
  Tree.Reader.stmt (fuel j) j

/-- The kinds of trees at which a walk can be asked to start. -/
inductive Node.Category where
  | program
  | module
  | script
  | stmt
  | expr
  | block
  | function
  | member
deriving DecidableEq, Repr

def Node.Category.ofName? : String → Option Node.Category
  | "program" => some .program
  | "module" => some .module
  | "script" => some .script
  | "stmt" => some .stmt
  | "expr" => some .expr
  | "block" => some .block
  | "function" => some .function
  | "member" => some .member
  | _ => none

def Node.ofJson? (category : Node.Category) (j : Json) : Option Node :=
  match category with
  | .program => (Program.ofJson? j).map .program
  | .module => (moduleItems j).map .module
  | .script => (scriptStmts j).map .script
  | .stmt => (Tree.Reader.stmt (fuel j) j).map .stmt
  | .expr => (Tree.Reader.expr (fuel j) j).map .expr
  | .block => (Tree.Reader.block (fuel j) j).map .block
  | .function => (Tree.Reader.func (fuel j) j).map .func
  | .member => (Tree.Reader.member (fuel j) j).map .member

end UnusedExpr
