import UnusedExpr.Setting.Options
import UnusedExpr.Tree.Basic

/-!
# Expressions without effect

An expression that only computes a value is useless as a statement. The options decide how far the rule
looks: into the right side of a logical expression, into the branches of a conditional, and whether tagged
templates and JSX count. An unknown shape is taken to have an effect (§4.1 of the specification).
-/

namespace UnusedExpr.Expr

/-- The expression inside any number of parentheses, which are transparent everywhere (§3). -/
def unparen : Expr → Expr
  | .paren inner => inner.unparen
  | e => e

/-- Whether an expression is an identifier of this name, in any number of parentheses. -/
def isNamed (name : String) (e : Expr) : Bool :=
  match e.unparen with
  | .ident n => n == name
  | _ => false

/-- Whether an expression is a string literal, in any number of parentheses. -/
def isString (e : Expr) : Bool :=
  match e.unparen with
  | .string _ => true
  | _ => false

theorem isNamed_paren (name : String) (e : Expr) : (Expr.paren e).isNamed name = e.isNamed name := by
  rw [isNamed, unparen]
  rfl

theorem isString_paren (e : Expr) : (Expr.paren e).isString = e.isString := by
  rw [isString, unparen]
  rfl

/-- Whether an expression does nothing as a statement (§4.1). -/
def isUnused (o : Options) : Expr → Bool
  | .paren inner => inner.isUnused o
  | .string _ | .literal _ | .ident _ | .thisExpr | .metaProperty => true
  | .member .. | .superMember _ | .superComputed _ | .optMember .. => true
  | .array _ | .object _ | .template _ | .sequence _ | .binary .. => true
  | .function _ | .arrow .. | .conciseArrow .. | .classExpr _ => true
  | .unary op _ => op != .void && op != .delete
  | .logical _ _ right => !o.allowShortCircuit || right.isUnused o
  | .conditional _ consequent alternate =>
    !o.allowTernary || consequent.isUnused o || alternate.isUnused o
  | .taggedTemplate .. => !o.allowTaggedTemplates
  | .jsxElement .. | .jsxFragment _ => o.enforceForJsx
  | .call .. | .superCall _ | .importCall _ | .optCall .. | .newCall .. => false
  | .update _ | .assign .. | .yieldExpr _ | .awaitExpr _ => false
  | .typed _ | .jsxName | .privateName _ | .invalid => false

end UnusedExpr.Expr
