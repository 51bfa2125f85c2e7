/-!
# Syntax trees

Trees of JavaScript programs, with JSX and the parts of TypeScript that can hold statements. What neither
holds a statement nor matters to the rule is left out: types, most names, operators other than the logical
and the unary ones. The place in the text is kept for expression statements, which are all that reports
point at.
-/

namespace UnusedExpr

/-- A stretch of the text, from `lo` up to `hi`. -/
structure Span where
  lo : Nat
  hi : Nat
deriving DecidableEq, Repr, Inhabited

/-- Two positions in either order. -/
def Span.between (a b : Nat) : Span :=
  ⟨min a b, max a b⟩

inductive UnaryOp where
  | minus
  | plus
  | not
  | bitNot
  | typeOf
  | void
  | delete
deriving DecidableEq, Repr

inductive LogicalOp where
  | and
  | or
  | coalesce
deriving DecidableEq, Repr

/-- Literals other than strings. -/
inductive Literal where
  | null
  | boolean
  | number
  | bigInt
  | regExp
  | jsxText
deriving DecidableEq, Repr

mutual

inductive Expr where
  | paren (inner : Expr)
  | string (value : String)
  | literal (kind : Literal)
  | ident (name : String)
  | thisExpr
  /-- `new.target` or `import.meta`. -/
  | metaProperty
  | member (object : Expr) (key : Key)
  | superMember (name : String)
  | superComputed (expression : Expr)
  /-- A member access in an optional chain. -/
  | optMember (object : Expr) (key : Key)
  | call (callee : Expr) (arguments : List Expr)
  | superCall (arguments : List Expr)
  | importCall (arguments : List Expr)
  /-- A call in an optional chain. -/
  | optCall (callee : Expr) (arguments : List Expr)
  | newCall (callee : Expr) (arguments : List Expr)
  | array (elements : List Expr)
  | object (properties : List Property)
  | function (func : Func)
  | arrow (params : List Pattern) (body : Block)
  /-- An arrow function whose body is an expression. -/
  | conciseArrow (params : List Pattern) (body : Expr)
  | classExpr (body : Class)
  | unary (op : UnaryOp) (argument : Expr)
  | update (argument : Expr)
  | logical (op : LogicalOp) (left right : Expr)
  /-- A binary operation that is not logical. -/
  | binary (left right : Expr)
  | assign (target : Pattern) (value : Expr)
  | conditional (test consequent alternate : Expr)
  | sequence (expressions : List Expr)
  | template (expressions : List Expr)
  | taggedTemplate (tag : Expr) (expressions : List Expr)
  | yieldExpr (argument : Option Expr)
  | awaitExpr (argument : Expr)
  /-- The values of the attributes, then the children. -/
  | jsxElement (attributes children : List Expr)
  | jsxFragment (children : List Expr)
  /-- A qualified JSX name, or an empty JSX expression. -/
  | jsxName
  /-- An expression with a type assertion, or with type arguments. -/
  | typed (inner : Expr)
  /-- The left side of `#name in object`. -/
  | privateName (name : String)
  /-- What a parser puts in place of a mistake. -/
  | invalid

/-- The key of a member access, of a property or of a class member. -/
inductive Key where
  | name (name : String)
  | privateName (name : String)
  | literal
  | computed (expression : Expr)

inductive Pattern where
  | ident
  /-- A target that is an expression, such as a member access. -/
  | target (expression : Expr)
  | array (elements : List Pattern)
  | object (fields : List PatternField)
  | rest (inner : Pattern)
  | withDefault (inner : Pattern) (value : Expr)

inductive PatternField where
  | keyed (key : Key) (value : Pattern)
  | shorthand (value : Option Expr)
  | rest (inner : Pattern)

inductive Property where
  | shorthand
  | keyed (key : Key) (value : Expr)
  | getter (key : Key) (body : Option Block)
  | setter (key : Key) (receiver : Option Pattern) (param : Pattern) (body : Option Block)
  | method (key : Key) (func : Func)
  | spread (inner : Expr)

inductive Param where
  | mk (decorators : List Expr) (pattern : Pattern)

/-- The function of a declaration, an expression or a method. A declared one may lack a body. -/
inductive Func where
  | mk (params : List Param) (decorators : List Expr) (body : Option Block)

inductive Class where
  | mk (decorators : List Expr) (members : List Member) (superClass : Option Expr)

inductive Member where
  | constructor (key : Key) (params : List Param) (body : Option Block)
  | method (key : Key) (func : Func)
  /-- A field or an automatic accessor. -/
  | field (key : Key) (value : Option Expr) (decorators : List Expr)
  | staticBlock (body : Block)
  /-- A semicolon or an index signature. -/
  | inert

inductive Block where
  | mk (stmts : List Stmt)

inductive Stmt where
  | expr (span : Span) (expression : Expr)
  | block (body : Block)
  | empty
  | debuggerStmt
  | breakStmt
  | continueStmt
  | withStmt (object : Expr) (body : Stmt)
  | returnStmt (argument : Option Expr)
  | throwStmt (argument : Expr)
  | labeled (body : Stmt)
  | ifStmt (test : Expr) (consequent : Stmt) (alternate : Option Stmt)
  | switchStmt (discriminant : Expr) (cases : List SwitchCase)
  | tryStmt (block : Block) (handler : Option CatchClause) (finalizer : Option Block)
  | whileStmt (test : Expr) (body : Stmt)
  | doWhileStmt (test : Expr) (body : Stmt)
  | forStmt (init : Option ForHead) (test update : Option Expr) (body : Stmt)
  /-- A loop with `in` or `of`. -/
  | forEachStmt (head : ForHead) (source : Expr) (body : Stmt)
  | function (func : Func)
  | classDecl (body : Class)
  | variables (declarators : List Declarator)
  /-- The values given to the members of an enumeration. -/
  | enumDecl (values : List Expr)
  | namespaceDecl (items : List Item)
  /-- An interface or a type alias. -/
  | typeDecl

/-- What stands first in the head of a `for` loop. -/
inductive ForHead where
  | variables (declarators : List Declarator)
  | expr (expression : Expr)
  | pattern (pattern : Pattern)

inductive Declarator where
  | mk (pattern : Pattern) (init : Option Expr)

inductive SwitchCase where
  | mk (test : Option Expr) (consequent : List Stmt)

inductive CatchClause where
  | mk (param : Option Pattern) (body : Block)

inductive Item where
  | stmt (stmt : Stmt)
  | exportDecl (declaration : Stmt)
  | exportDefault (expression : Expr)
  | exportAssign (expression : Expr)
  /-- An import from or an export to another module, with the import attributes. -/
  | link (attributes : List Property)
  /-- A declaration that only names something. -/
  | inert

end

inductive Program where
  | module (items : List Item)
  | script (stmts : List Stmt)

end UnusedExpr
