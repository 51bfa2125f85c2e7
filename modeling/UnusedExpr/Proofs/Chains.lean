import Mathlib.Data.List.Induction
import UnusedExpr.Proofs.Rebuild

/-! # The grammar of `expect` chains

The rule finds an `expect` chain by going from the outermost access of a statement towards the root. The grammar
builds the same expressions from the root outwards: a call of `expect`, and around it accesses, calls and
parentheses in any number (`reachesExpect_iff`).

Every expression is a root with links around it, where the root is itself no link (`exists_extend`). Leaving out
parentheses, it is a chain just if the root is the identifier `expect`, the innermost link is a call, and the
outermost one is a plain access (`isExpectChain_extend_iff`). Nothing depends on the arguments of the calls or on
the keys of the accesses. -/

namespace UnusedExpr

/-- The second expression is the first in any number of parentheses. -/
inductive Expr.Parenthesized (core : Expr) : Expr → Prop
  | bare : Parenthesized core core
  | paren {e : Expr} (inner : Parenthesized core e) : Parenthesized core (.paren e)

/-- An expression whose accesses are `expect` chains. -/
inductive ExpectChain : Expr → Prop
  | root {callee : Expr} (args : List Expr) (named : (Expr.ident "expect").Parenthesized callee) :
      ExpectChain (.call callee args)
  | optRoot {callee : Expr} (args : List Expr) (named : (Expr.ident "expect").Parenthesized callee) :
      ExpectChain (.optCall callee args)
  | member {obj : Expr} (key : Key) (chain : ExpectChain obj) : ExpectChain (.member obj key)
  | optMember {obj : Expr} (key : Key) (chain : ExpectChain obj) : ExpectChain (.optMember obj key)
  | call {callee : Expr} (args : List Expr) (chain : ExpectChain callee) : ExpectChain (.call callee args)
  | optCall {callee : Expr} (args : List Expr) (chain : ExpectChain callee) : ExpectChain (.optCall callee args)
  | paren {inner : Expr} (chain : ExpectChain inner) : ExpectChain (.paren inner)

namespace Expr
variable {e : Expr}

/-! ### Parentheses -/

theorem parenthesized_unparen (e : Expr) : e.unparen.Parenthesized e := by
  fun_induction Expr.unparen e with
  | case1 inner ih => exact .paren ih
  | case2 e _ => exact .bare

theorem Parenthesized.unparen_eq {core : Expr} (around : core.Parenthesized e) : e.unparen = core.unparen := by
  induction around with
  | bare => rfl
  | paren _ ih => rw [unparen, ih]

theorem unparen_eq_iff {core : Expr} (plain : core.unparen = core) : e.unparen = core ↔ core.Parenthesized e := by
  constructor
  · rintro rfl
    exact e.parenthesized_unparen
  · intro around
    exact around.unparen_eq.trans plain

theorem isNamed_iff {name : String} : e.isNamed name = true ↔ (Expr.ident name).Parenthesized e := by
  rw [← unparen_eq_iff rfl]
  unfold isNamed
  split
  · rename_i n core
    simp [core]
  · simp_all

/-! ### From the outermost access to the root and back -/

theorem expectChain_of_reachesExpect {e : Expr} (reached : e.reachesExpect = true) : ExpectChain e := by
  cases e with
  | paren inner => exact .paren (expectChain_of_reachesExpect reached)
  | member obj key => exact .member key (expectChain_of_reachesExpect reached)
  | optMember obj key => exact .optMember key (expectChain_of_reachesExpect reached)
  | call callee args =>
    rcases (Bool.or_eq_true _ _).mp reached with named | deeper
    · exact .root args (isNamed_iff.mp named)
    · exact .call args (expectChain_of_reachesExpect deeper)
  | optCall callee args =>
    rcases (Bool.or_eq_true _ _).mp reached with named | deeper
    · exact .optRoot args (isNamed_iff.mp named)
    · exact .optCall args (expectChain_of_reachesExpect deeper)
  | _ => cases reached

theorem reachesExpect_iff : e.reachesExpect = true ↔ ExpectChain e := by
  constructor
  · exact expectChain_of_reachesExpect
  · intro chain
    induction chain with
    | root args named | optRoot args named => rw [reachesExpect, isNamed_iff.mpr named, Bool.true_or]
    | member key chain ih | optMember key chain ih | paren chain ih => exact ih
    | call args chain ih | optCall args chain ih => rw [reachesExpect, ih, Bool.or_true]

theorem isExpectChain_iff :
    e.isExpectChain = true ↔ ∃ obj key, (Expr.member obj key).Parenthesized e ∧ ExpectChain obj := by
  have outermost : ∀ obj key, (Expr.member obj key).Parenthesized e ↔ e.unparen = .member obj key :=
    fun _ _ => (unparen_eq_iff rfl).symm
  simp only [outermost, ← reachesExpect_iff]
  unfold isExpectChain
  split
  · rename_i obj key core
    simp [core]
  · simp_all

end Expr

/-! ### Links -/

/-- What makes a chain longer when it is put around an expression. -/
inductive Link where
  | paren
  | member (key : Key)
  | optMember (key : Key)
  | call (args : List Expr)
  | optCall (args : List Expr)

namespace Link

def around (inner : Expr) : Link → Expr
  | .paren => .paren inner
  | .member key => .member inner key
  | .optMember key => .optMember inner key
  | .call args => .call inner args
  | .optCall args => .optCall inner args

def isParen : Link → Bool
  | .paren => true
  | _ => false

def isCall : Link → Bool
  | .call _ | .optCall _ => true
  | _ => false

def isPlainMember : Link → Bool
  | .member _ => true
  | _ => false

def withoutParens (links : List Link) : List Link :=
  links.filter fun link => !link.isParen

theorem withoutParens_paren (links : List Link) : withoutParens (links ++ [.paren]) = withoutParens links := by
  simp [withoutParens, isParen]

theorem withoutParens_append {outer : Link} (other : outer.isParen = false) (links : List Link) :
    withoutParens (links ++ [outer]) = withoutParens links ++ [outer] := by
  simp [withoutParens, other]

end Link

namespace Expr

/-- An expression with links around it, the innermost first. -/
def extend (root : Expr) (links : List Link) : Expr :=
  links.foldl Link.around root

/-- Whether an expression is a link around another one. -/
def isLinked : Expr → Bool
  | .paren _ | .member .. | .optMember .. | .call .. | .optCall .. => true
  | _ => false

variable {root : Expr}

theorem extend_append (root : Expr) (links : List Link) (outer : Link) :
    root.extend (links ++ [outer]) = outer.around (root.extend links) := by
  rw [extend, List.foldl_append]
  rfl

/-- Going towards the root as the rule does ends at an expression that is no link. -/
theorem exists_extend (e : Expr) :
    ∃ (root : Expr) (links : List Link), root.isLinked = false ∧ e = root.extend links := by
  have longer : ∀ {inner : Expr} (outer : Link),
      (∃ (root : Expr) (links : List Link), root.isLinked = false ∧ inner = root.extend links) →
        ∃ (root : Expr) (links : List Link), root.isLinked = false ∧ outer.around inner = root.extend links := by
    rintro _ outer ⟨root, links, bare, rfl⟩
    exact ⟨root, links ++ [outer], bare, (root.extend_append links outer).symm⟩
  cases e with
  | paren inner => exact longer .paren (exists_extend inner)
  | member obj key => exact longer (.member key) (exists_extend obj)
  | optMember obj key => exact longer (.optMember key) (exists_extend obj)
  | call callee args => exact longer (.call args) (exists_extend callee)
  | optCall callee args => exact longer (.optCall args) (exists_extend callee)
  | _ => exact ⟨_, [], rfl, rfl⟩

theorem unparen_of_not_isLinked (bare : root.isLinked = false) : root.unparen = root := by
  unfold unparen
  split
  · cases bare
  · rfl

theorem isNamed_extend_iff (bare : root.isLinked = false) (name : String) (links : List Link) :
    (root.extend links).isNamed name = true ↔ root = .ident name ∧ Link.withoutParens links = [] := by
  induction links using List.reverseRecOn with
  | nil =>
    rw [extend, List.foldl_nil, isNamed, unparen_of_not_isLinked bare]
    split <;> simp_all [Link.withoutParens]
  | append_singleton links outer ih =>
    rw [extend_append]
    cases outer with
    | paren => rw [Link.withoutParens_paren, Link.around, isNamed_paren, ih]
    | _ =>
      rw [Link.withoutParens_append rfl]
      simp [Link.around, isNamed, unparen]

theorem reachesExpect_extend_iff (bare : root.isLinked = false) (links : List Link) :
    (root.extend links).reachesExpect = true ↔
      root = .ident "expect" ∧ (Link.withoutParens links).head?.any Link.isCall = true := by
  induction links using List.reverseRecOn with
  | nil =>
    have ends : root.reachesExpect = false := by cases root <;> first | rfl | cases bare
    simp [extend, ends, Link.withoutParens]
  | append_singleton links outer ih =>
    rw [extend_append]
    cases outer with
    | paren => rw [Link.withoutParens_paren, Link.around, reachesExpect, ih]
    | member key | optMember key =>
      rw [Link.withoutParens_append rfl, Link.around, reachesExpect, ih]
      cases Link.withoutParens links <;> simp [Link.isCall]
    | call args | optCall args =>
      -- The call is the innermost link just if what it calls has nothing but parentheses around the root.
      rw [Link.withoutParens_append rfl, Link.around, reachesExpect, Bool.or_eq_true, isNamed_extend_iff bare, ih]
      cases Link.withoutParens links <;> simp [Link.isCall]

theorem isExpectChain_extend_iff (bare : root.isLinked = false) (links : List Link) :
    (root.extend links).isExpectChain = true ↔
      root = .ident "expect" ∧ (Link.withoutParens links).head?.any Link.isCall = true ∧
        (Link.withoutParens links).getLast?.any Link.isPlainMember = true := by
  induction links using List.reverseRecOn with
  | nil =>
    rw [extend, List.foldl_nil, isExpectChain, unparen_of_not_isLinked bare]
    split
    · cases bare
    · simp [Link.withoutParens]
  | append_singleton links outer ih =>
    rw [extend_append]
    cases outer with
    | paren => rw [Link.withoutParens_paren, Link.around, isExpectChain_paren, ih]
    | member key =>
      have below : (Link.around (root.extend links) (.member key)).isExpectChain =
        (root.extend links).reachesExpect := rfl
      rw [Link.withoutParens_append rfl, List.getLast?_concat, below, reachesExpect_extend_iff bare]
      cases Link.withoutParens links <;> simp [Link.isCall, Link.isPlainMember]
    | _ =>
      rw [Link.withoutParens_append rfl, List.getLast?_concat]
      simp [Link.around, isExpectChain, unparen, Link.isPlainMember]

end Expr

/-- The `expect` chains are, in any number of parentheses, the plain accesses to what the grammar generates. With
    an expression taken apart into a root and links, and parentheses left out, they are those whose root is the
    identifier `expect`, whose innermost link is a call and whose outermost link is a plain access. -/
theorem isExpectChain_iff_grammar (e : Expr) :
    (e.isExpectChain = true ↔ ∃ obj key, (Expr.member obj key).Parenthesized e ∧ ExpectChain obj) ∧
    (∃ (root : Expr) (links : List Link), root.isLinked = false ∧ e = root.extend links) ∧
    ∀ (root : Expr) (links : List Link), root.isLinked = false → e = root.extend links →
      (e.isExpectChain = true ↔
        root = .ident "expect" ∧ (Link.withoutParens links).head?.any Link.isCall = true ∧
          (Link.withoutParens links).getLast?.any Link.isPlainMember = true) := by
  refine ⟨Expr.isExpectChain_iff, e.exists_extend, ?_⟩
  rintro root links bare rfl
  exact Expr.isExpectChain_extend_iff bare links

/-- `(expect)?.(a)?.to.be` is a chain, and `x.expect(a).ok` is none. -/
theorem isExpectChain_by_links :
    Expr.isExpectChain
        (.member (.optMember (.optCall (.paren (.ident "expect")) [.ident "a"]) (.name "to")) (.name "be")) = true ∧
      Expr.isExpectChain
        (.member (.call (.member (.ident "x") (.name "expect")) [.ident "a"]) (.name "ok")) = false := by
  obtain ⟨-, -, chain⟩ := isExpectChain_iff_grammar
    (.member (.optMember (.optCall (.paren (.ident "expect")) [.ident "a"]) (.name "to")) (.name "be"))
  obtain ⟨-, -, none⟩ := isExpectChain_iff_grammar
    (.member (.call (.member (.ident "x") (.name "expect")) [.ident "a"]) (.name "ok"))
  have first := chain (.ident "expect")
    [.paren, .optCall [.ident "a"], .optMember (.name "to"), .member (.name "be")] rfl rfl
  have second := none (.ident "x") [.member (.name "expect"), .call [.ident "a"], .member (.name "ok")] rfl rfl
  exact ⟨first.mpr ⟨rfl, rfl, rfl⟩, by simpa using second⟩

end UnusedExpr
