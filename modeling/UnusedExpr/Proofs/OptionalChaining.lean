import UnusedExpr.Proofs.Chains
import UnusedExpr.Proofs.Places
import UnusedExpr.Proofs.Violations

/-! # Optional chaining

With every `?.` of a program made plain, each statement stays in its place, and the rule answers every question as
before but one: an `expect` chain has to end in a plain access. An optional access to what would be the object of an
`expect` chain is reported, and is not when it is plain. So these statements lose their diagnostics, and all others
are reported or not as before. -/

namespace UnusedExpr

/-- The rebuild that makes optional accesses and calls plain ones. -/
def Rebuild.eraseOptional : Rebuild where
  span := id
  expr
    | .optMember obj key => .member obj key
    | .optCall callee args => .call callee args
    | e => e

def Expr.eraseOptional (e : Expr) : Expr :=
  e.rebuild .eraseOptional

/-- The program with plain accesses and calls for the optional ones, at any depth. -/
def Program.eraseOptional (p : Program) : Program :=
  p.rebuild .eraseOptional

/-- The same statement in that program. -/
def Occurrence.eraseOptional (s : Occurrence) : Occurrence :=
  { s with expr := s.expr.eraseOptional }

namespace Expr

def isOptional : Expr → Bool
  | .optMember .. | .optCall .. => true
  | _ => false

/-- Whether an expression would be an `expect` chain if its outermost access were plain. -/
def isOptionalExpectChain (e : Expr) : Bool :=
  match e.unparen with
  | .optMember obj _ => obj.reachesExpect
  | _ => false

theorem isOptionalExpectChain_paren (e : Expr) : (Expr.paren e).isOptionalExpectChain = e.isOptionalExpectChain := by
  rw [isOptionalExpectChain, unparen]
  rfl

theorem isOptionalExpectChain_iff {e : Expr} :
    e.isOptionalExpectChain = true ↔ ∃ obj key, (Expr.optMember obj key).Parenthesized e ∧ ExpectChain obj := by
  have outermost : ∀ obj key, (Expr.optMember obj key).Parenthesized e ↔ e.unparen = .optMember obj key :=
    fun _ _ => (unparen_eq_iff rfl).symm
  simp only [outermost, ← reachesExpect_iff]
  unfold isOptionalExpectChain
  split
  · rename_i obj key core
    simp [core]
  · simp_all

end Expr

/-! ### What stays -/

theorem Rebuild.eraseOptional_keepsPlaces : Rebuild.eraseOptional.KeepsPlaces where
  children e := by cases e <;> rfl
  function e := by cases e <;> rfl

theorem Rebuild.eraseOptional_keeps : Rebuild.eraseOptional.Keeps where
  shown role e := Node.sightings_of_keepsPlaces eraseOptional_keepsPlaces role e
  string e := by cases e <;> rfl
  named name e := by cases e <;> rfl
  unused o e := by cases e <;> rfl
  expectBelow e := by cases e <;> rfl
  shouldBelow e := by cases e <;> rfl
  should e := by cases e <;> rfl

theorem Program.occurrences_eraseOptional (p : Program) :
    p.eraseOptional.occurrences = p.occurrences.map Occurrence.eraseOptional :=
  p.occurrences_rebuild Rebuild.eraseOptional_keeps Rebuild.eraseOptional_keepsPlaces

theorem Expr.isOptional_eraseOptional (e : Expr) : e.eraseOptional.isOptional = false := by
  obtain ⟨parts, whole, -, -⟩ := e.exists_parts (r := .eraseOptional)
  rw [eraseOptional, whole]
  cases parts <;> rfl

theorem Program.isOptional_of_nodeAt? {p : Program} {address : Address} {e : Expr}
    (found : (Node.program p.eraseOptional).nodeAt? address = some (.expr e)) : e.isOptional = false := by
  have rebuilt := Node.nodeAt?_rebuild Rebuild.eraseOptional_keepsPlaces (.program p) address
  obtain ⟨before, -, is⟩ := Option.map_eq_some_iff.mp (rebuilt.symm.trans found)
  cases before with
  | expr f => exact Node.expr.inj is ▸ f.isOptional_eraseOptional
  | _ => cases is

/-! ### What changes -/

theorem Expr.isExpectChain_eraseOptional (e : Expr) :
    e.eraseOptional.isExpectChain = (e.isExpectChain || e.isOptionalExpectChain) := by
  unfold eraseOptional
  fun_induction Expr.unparen e with
  | case1 inner ih =>
    have outside : (Expr.paren inner).rebuild .eraseOptional = .paren (inner.rebuild .eraseOptional) := by
      rw [Expr.rebuild]
      rfl
    rw [outside, isExpectChain_paren, isExpectChain_paren, isOptionalExpectChain_paren, ih]
  | case2 e plain =>
    have below := fun obj : Expr => obj.reachesExpect_rebuild Rebuild.eraseOptional_keeps
    cases e with
    | paren inner => exact absurd rfl (plain inner)
    | member obj key =>
      rw [Expr.rebuild]
      exact (below obj).trans (Bool.or_false _).symm
    | optMember obj key =>
      rw [Expr.rebuild]
      exact (below obj).trans (Bool.false_or _).symm
    | yieldExpr argument =>
      rw [rebuild_yieldExpr]
      rfl
    | _ =>
      rw [Expr.rebuild]
      rfl

theorem Occurrence.isValid_eraseOptional (o : Options) (s : Occurrence) :
    s.eraseOptional.isValid o = (s.isValid o || s.expr.isOptionalExpectChain) := by
  have keeps := Rebuild.eraseOptional_keeps
  have unused : s.eraseOptional.expr.isUnused o = s.expr.isUnused o := s.expr.isUnused_rebuild keeps o
  have should : s.eraseOptional.expr.isShouldChain = s.expr.isShouldChain := s.expr.isShouldChain_rebuild keeps
  have expect : s.eraseOptional.expr.isExpectChain = (s.expr.isExpectChain || s.expr.isOptionalExpectChain) :=
    s.expr.isExpectChain_eraseOptional
  -- The address and the stack are the same, so it is a directive just if it was one.
  have directive : s.eraseOptional.isDirective = s.isDirective := rfl
  simp only [isValid, Expr.isAcceptable, unused, should, expect, directive, Bool.or_assoc,
    Bool.or_comm s.expr.isOptionalExpectChain]

theorem Program.violations_eraseOptional (p : Program) (setting : Setting) :
    p.eraseOptional.violations setting =
      ((p.violations setting).filter fun s => !s.expr.isOptionalExpectChain).map Occurrence.eraseOptional := by
  unfold violations
  split
  · rfl
  · rw [p.occurrences_eraseOptional, List.filter_map, List.filter_filter]
    congr 2
    funext s
    rw [Function.comp_apply, s.isValid_eraseOptional, Bool.not_or, Bool.and_comm]

/-- With plain accesses and calls for the optional ones, exactly the optional accesses to `expect` chains lose their
    diagnostics. Each statement stays in its place, and the verdict on every other one is the same. No answer
    about an expression depends on `?.` but whether it is an `expect` chain, and that only on the outermost access. -/
theorem lint_eraseOptional (p : Program) (setting : Setting) :
    (∀ address e, (Node.program p.eraseOptional).nodeAt? address = some (.expr e) → e.isOptional = false) ∧
    (p.lint setting = (p.violations setting).map fun s => Rule.diagnostic setting.severity s.span) ∧
    (p.eraseOptional.lint setting =
      ((p.violations setting).filter fun s => !s.expr.isOptionalExpectChain).map fun s =>
        Rule.diagnostic setting.severity s.span) ∧
    p.eraseOptional.occurrences = p.occurrences.map Occurrence.eraseOptional ∧
    (∀ (o : Options) (s : Occurrence), s.eraseOptional.isValid o = (s.isValid o || s.expr.isOptionalExpectChain)) ∧
    (∀ e : Expr,
      (e.isOptionalExpectChain = true ↔ ∃ obj key, (Expr.optMember obj key).Parenthesized e ∧ ExpectChain obj) ∧
      (∀ o, e.eraseOptional.isUnused o = e.isUnused o) ∧
      e.eraseOptional.isString = e.isString ∧
      e.eraseOptional.isShouldChain = e.isShouldChain ∧
      e.eraseOptional.isExpectChain = (e.isExpectChain || e.isOptionalExpectChain)) := by
  have keeps := Rebuild.eraseOptional_keeps
  refine ⟨fun address e => Program.isOptional_of_nodeAt?, p.lint_eq_violations setting, ?_,
    p.occurrences_eraseOptional, Occurrence.isValid_eraseOptional, fun e => ⟨Expr.isOptionalExpectChain_iff, ?_⟩⟩
  · rw [Program.lint_eq_violations, Program.violations_eraseOptional, List.map_map]
    rfl
  · exact ⟨e.isUnused_rebuild keeps, e.isString_rebuild keeps, e.isShouldChain_rebuild keeps,
      e.isExpectChain_eraseOptional⟩

/-- Of `expect(a)?.ok` and `a?.b`, both reported, the second still is when it is made plain. -/
theorem lint_eraseOptional_of_expect :
    ∃ p : Program,
      p.lint .standard = [Rule.diagnostic .error ⟨1, 15⟩, Rule.diagnostic .error ⟨16, 21⟩] ∧
      p.eraseOptional.lint .standard = [Rule.diagnostic .error ⟨16, 21⟩] ∧
      ∃ e, (Node.program p.eraseOptional).nodeAt? [0, 1, 0] = some (.expr e) ∧ e.isOptional = false := by
  let p : Program := .script
    [.expr ⟨1, 15⟩ (.optMember (.call (.ident "expect") [.ident "a"]) (.name "ok")),
     .expr ⟨16, 21⟩ (.optMember (.ident "a") (.name "b"))]
  obtain ⟨plain, -, fewer, -⟩ := lint_eraseOptional p .standard
  have here : (Node.program p.eraseOptional).nodeAt? [0, 1, 0] = some (.expr (.member (.ident "a") (.name "b"))) := by
    rw [Program.eraseOptional, Program.rebuild]
    simp only [List.map_cons, List.map_nil, Stmt.rebuild, Expr.rebuild, Key.rebuild]
    rfl
  exact ⟨p, by decide +kernel, fewer.trans (by decide +kernel), _, here, plain _ _ here⟩

end UnusedExpr
