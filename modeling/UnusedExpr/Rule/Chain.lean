import UnusedExpr.Rule.Unused

/-!
# Assertion chains

An assertion such as `expect(x).to.be.true` or `x.should.be.true` is a member access that does its work
when it is read. It is known by its chain: going from the object of the access through members and calls
towards the root, an `expect` chain meets a call of `expect`, and a `should` chain meets an access to
`should`. The access itself is not looked at. In an `expect` chain it has to be a plain one, while the
links below it may be optional (§4.3).
-/

namespace UnusedExpr

/-- Whether a key is this name: `.name`, `.#name`, or `[name]` with the identifier. A string in brackets
    is no name. -/
def Key.isNamed (name : String) : Key → Bool
  | .name n | .privateName n => n == name
  | .literal => false
  | .computed e => e.isNamed name

namespace Expr

/-- Whether the way to the root meets a call of `expect`. -/
def reachesExpect : Expr → Bool
  | .paren inner => inner.reachesExpect
  | .member obj _ | .optMember obj _ => obj.reachesExpect
  | .call callee _ | .optCall callee _ => callee.isNamed "expect" || callee.reachesExpect
  | _ => false

/-- Whether the way to the root meets an access to `should`. It ends at `super`. -/
def reachesShould : Expr → Bool
  | .paren inner => inner.reachesShould
  | .member obj key | .optMember obj key => key.isNamed "should" || obj.reachesShould
  | .superMember name => name == "should"
  | .superComputed key => key.isNamed "should"
  | .call callee _ | .optCall callee _ => callee.reachesShould
  | _ => false

/-- Whether an expression is an assertion that starts with a call of `expect` (§4.3). -/
def isExpectChain (e : Expr) : Bool :=
  match e.unparen with
  | .member obj _ => obj.reachesExpect
  | _ => false

/-- Whether an expression is an assertion on the `should` of an object (§4.3). -/
def isShouldChain (e : Expr) : Bool :=
  match e.unparen with
  | .member obj _ | .optMember obj _ => obj.reachesShould
  | _ => false

theorem isExpectChain_paren (e : Expr) : (Expr.paren e).isExpectChain = e.isExpectChain := by
  rw [isExpectChain, unparen]
  rfl

theorem isShouldChain_paren (e : Expr) : (Expr.paren e).isShouldChain = e.isShouldChain := by
  rw [isShouldChain, unparen]
  rfl

end Expr

end UnusedExpr
