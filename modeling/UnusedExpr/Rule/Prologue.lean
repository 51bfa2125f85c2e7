import UnusedExpr.Rule.Unused
import UnusedExpr.Tree.Node

/-!
# Directive prologues

The statements `"use strict"` and the like are directives if they stand in the leading run of string
statements of a program or of a function body. The same statement elsewhere is an ordinary expression, so
a statement is known by where it stands and not by what it says: its address is the way to it from the
root of the walk. A walk keeps the scopes around it, which hold the addresses of their leading runs (§3,
§4.2).
-/

namespace UnusedExpr

/-- The way from the root of a walk to a node: for each step down, which child was taken. The last step
    comes first. -/
abbrev Address := List Nat

/-- A construct around a statement that bears on whether it is a directive (§3). -/
inductive Scope where
  /-- A whole program, with the addresses of its leading string statements. -/
  | program (prologue : List Address)
  /-- A block, with the addresses of its leading string statements. -/
  | block (prologue : List Address)
  /-- A construct whose body is a function body. -/
  | function
  /-- A static block of a class. Its body has no directives. -/
  | staticBlock
deriving DecidableEq, Repr

/-- Whether a statement consists of a string literal (§4.2). -/
def Stmt.isDirectiveLike : Stmt → Bool
  | .expr _ e => e.isString
  | _ => false

def Item.isDirectiveLike : Item → Bool
  | .stmt s => s.isDirectiveLike
  | _ => false

/-- The addresses of the first `count` children of the node at `address`. -/
def Address.first (address : Address) (count : Nat) : List Address :=
  (List.range count).map fun index => index :: address

namespace Scope

/-- The addresses of the leading string statements of a list that stands at `address`. -/
def prologue (address : Address) (stmts : List Stmt) : List Address :=
  address.first (stmts.takeWhile Stmt.isDirectiveLike).length

/-- The same for the items of a module. An import or an export ends the run. -/
def modulePrologue (address : Address) (items : List Item) : List Address :=
  address.first (items.takeWhile Item.isDirectiveLike).length

end Scope

/-- The scope that a node at `address` opens around what lies under it. A namespace opens none, nor does
    a class or a loop (§4.2). -/
def Node.scope? (address : Address) : Node → Option Scope
  | .module items => some (.program (Scope.modulePrologue address items))
  | .script stmts => some (.program (Scope.prologue address stmts))
  | .block (.mk stmts) => some (.block (Scope.prologue address stmts))
  | .func _ | .expr (.arrow ..) | .expr (.conciseArrow ..) => some .function
  | .member (.constructor ..) | .property (.getter ..) | .property (.setter ..) => some .function
  | .member (.staticBlock _) => some .staticBlock
  | _ => none

/-- Whether the statement at `address` is a directive, given the scopes around it from the innermost
    outwards: it is in the prologue of the program, or of a block that is a function's body (§4.2). -/
def isDirective (scopes : List Scope) (address : Address) : Bool :=
  match scopes with
  | .program prologue :: _ => prologue.contains address
  | .block prologue :: .function :: _ => prologue.contains address
  | _ => false

end UnusedExpr
