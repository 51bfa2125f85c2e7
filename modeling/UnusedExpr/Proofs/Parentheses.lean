import UnusedExpr.Proofs.Rebuild

/-! # Parentheses are transparent

Every question of the rule looks through parentheses wherever it looks at an expression. So a program without any
of its parentheses gets the same report, and so do two programs that differ only in parentheses. -/

namespace UnusedExpr

/-- The rebuild that puts the inner expression in the place of its parentheses. -/
def Rebuild.eraseParens : Rebuild where
  span := id
  expr
    | .paren inner => inner
    | e => e

def Expr.eraseParens (e : Expr) : Expr :=
  e.rebuild .eraseParens

/-- The program without the parentheses, at any depth. -/
def Program.eraseParens (p : Program) : Program :=
  p.rebuild .eraseParens

theorem Node.sightings_paren (role : Role) (e : Expr) :
    (Node.expr (.paren e)).sightings role = (Node.expr e).sightings role := by
  have only : (Node.expr (.paren e)).sightings role =
      (Node.expr e).sightings ((Node.expr (.paren e)).childRole role 0) := by
    rw [sightings_eq]
    simp [ownSighting?, Node.children]
  rw [only]
  exact sightings_of_isSelfContained rfl _ _

namespace Rebuild

theorem eraseParens_keeps : Rebuild.eraseParens.Keeps where
  shown role e := by
    cases e with
    | paren inner => exact (Node.sightings_paren role inner).symm
    | _ => rfl
  string e := by
    cases e with
    | paren inner => exact inner.isString_paren.symm
    | _ => rfl
  named name e := by
    cases e with
    | paren inner => exact (inner.isNamed_paren name).symm
    | _ => rfl
  unused o e := by cases e <;> rfl
  expectBelow e := by cases e <;> rfl
  shouldBelow e := by cases e <;> rfl
  should e := by
    cases e with
    | paren inner => exact inner.isShouldChain_paren.symm
    | _ => rfl

theorem eraseParens_isExpectChain (e : Expr) : (eraseParens.expr e).isExpectChain = e.isExpectChain := by
  cases e with
  | paren inner => exact inner.isExpectChain_paren.symm
  | _ => rfl

end Rebuild

/-! ### What is left -/

/-- What is left of an expression is no parenthesis, and its parts are without parentheses. -/
theorem Expr.eraseParens_parts (e : Expr) :
    (∀ inner, e.eraseParens ≠ .paren inner) ∧
      ∃ core, (Node.expr core).Parallel .eraseParens (.expr e.eraseParens) := by
  fun_induction Expr.unparen e with
  | case1 inner ih =>
    have inside : (Expr.paren inner).eraseParens = inner.eraseParens := by
      rw [eraseParens, Expr.rebuild]
      rfl
    rw [inside]
    exact ih
  | case2 e plain =>
    obtain ⟨parts, whole, same, paren⟩ := e.exists_parts (r := .eraseParens)
    have other : ∀ inner, parts ≠ .paren inner := by
      intro inner is
      obtain ⟨outer, was⟩ := paren ⟨inner, is⟩
      exact plain outer was
    have left : e.eraseParens = parts := by
      rw [eraseParens, whole]
      cases parts with
      | paren inner => exact absurd rfl (other inner)
      | _ => rfl
    rw [left]
    exact ⟨other, e, same⟩

namespace Node

theorem exists_rebuild_of_mem_children {node child : Node} (member : child ∈ (node.rebuild .eraseParens).children) :
    ∃ before : Node, before.rebuild .eraseParens = child := by
  by_cases expression : ∃ e, node = .expr e
  · obtain ⟨e, rfl⟩ := expression
    obtain ⟨-, core, same⟩ := e.eraseParens_parts
    have mapped : child ∈ (Node.expr core).children.map (Node.rebuild .eraseParens) := same.children ▸ member
    obtain ⟨before, -, is⟩ := List.mem_map.mp mapped
    exact ⟨before, is⟩
  · rw [children_rebuild fun e is => expression ⟨e, is⟩] at member
    obtain ⟨before, -, is⟩ := List.mem_map.mp member
    exact ⟨before, is⟩

theorem nodeAt?_eraseParens {node found : Node} {address : Address}
    (here : (node.rebuild .eraseParens).nodeAt? address = some found) :
    ∃ before : Node, before.rebuild .eraseParens = found := by
  induction address generalizing found with
  | nil => exact ⟨node, Option.some.inj here⟩
  | cons index address ih =>
    obtain ⟨parent, upper, under⟩ := nodeAt?_cons_eq_some.mp here
    obtain ⟨before, rfl⟩ := ih upper
    exact exists_rebuild_of_mem_children (List.mem_of_getElem? under)

end Node

theorem Program.nodeAt?_eraseParens_ne_paren (p : Program) (address : Address) (e : Expr) :
    (Node.program p.eraseParens).nodeAt? address ≠ some (.expr (.paren e)) := by
  intro here
  have whole : Node.program p.eraseParens = (Node.program p).rebuild .eraseParens := rfl
  obtain ⟨before, is⟩ := Node.nodeAt?_eraseParens (whole ▸ here)
  cases before with
  | expr f => exact f.eraseParens_parts.1 e (Node.expr.inj is)
  | _ => cases is

theorem Program.lint_eraseParens_eq (p : Program) (setting : Setting) : p.eraseParens.lint setting = p.lint setting := by
  have spans : Diagnostic.rebuild .eraseParens = id := rfl
  rw [eraseParens, lint_rebuild Rebuild.eraseParens_keeps Rebuild.eraseParens_isExpectChain, spans, List.map_id]

/-- A program without its parentheses gets the same report, and so do two programs that are the same without
    them. -/
theorem lint_eraseParens (p : Program) (setting : Setting) :
    (∀ address e, (Node.program p.eraseParens).nodeAt? address ≠ some (.expr (.paren e))) ∧
      p.eraseParens.lint setting = p.lint setting ∧
      ∀ q : Program, q.eraseParens = p.eraseParens → q.lint setting = p.lint setting := by
  refine ⟨p.nodeAt?_eraseParens_ne_paren, p.lint_eraseParens_eq setting, ?_⟩
  intro q same
  rw [← q.lint_eraseParens_eq, same, p.lint_eraseParens_eq]

/-- Parentheses around a callee, a link of a chain and a whole statement. -/
theorem lint_parenthesized_chain :
    (Program.script [.expr ⟨0, 12⟩ (.member (.call (.ident "expect") [.ident "a"]) (.name "ok"))]).lint .standard =
      (Program.script [.expr ⟨0, 12⟩ (.paren (.member (.paren (.call (.paren (.ident "expect"))
        [.paren (.paren (.ident "a"))])) (.name "ok")))]).lint .standard := by
  apply (lint_eraseParens _ .standard).2.2
  simp only [Program.eraseParens, Program.rebuild, List.map_cons, List.map_nil, Stmt.rebuild, Expr.rebuild, Key.rebuild]
  rfl

end UnusedExpr
