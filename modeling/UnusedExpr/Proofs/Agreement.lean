import UnusedExpr.Proofs.Tails
import UnusedExpr.Proofs.Violations

/-! # Where the options matter

Each switch is about one kind of construct, and it is asked only on the spine of a statement: what is reached from its
expression through parentheses, right operands of logical expressions and branches of conditionals. Two sets of options
that agree on the switches of all constructs there give the same verdict. In arguments of calls, left operands, tests,
members of sequences and all other places such constructs make no difference. -/

namespace UnusedExpr

/-- What is reached from an expression, whatever the options are. -/
def Expr.spine : Expr → List Expr
  | .paren inner => .paren inner :: inner.spine
  | .logical op left right => .logical op left right :: right.spine
  | .conditional test consequent alternate =>
    .conditional test consequent alternate :: (consequent.spine ++ alternate.spine)
  | e => [e]

/-- The switch that is about a construct. -/
def Expr.switch? : Expr → Option Switch
  | .logical .. => some .shortCircuit
  | .conditional .. => some .ternary
  | .taggedTemplate .. => some .taggedTemplates
  | .jsxElement .. | .jsxFragment _ => some .jsx
  | _ => none

/-- The options agree on the switches of all constructs on the spine of an expression. -/
def Options.AgreeOn (o o' : Options) (e : Expr) : Prop :=
  ∀ node ∈ e.spine, ∀ switch ∈ node.switch?, o.get switch = o'.get switch

instance (o o' : Options) (e : Expr) : Decidable (o.AgreeOn o' e) :=
  inferInstanceAs (Decidable (∀ node ∈ e.spine, ∀ switch ∈ node.switch?, o.get switch = o'.get switch))

variable {o o' : Options} {e part : Expr}

theorem Expr.spine_eq (e : Expr) : e.spine = e :: e.next.flatMap Expr.spine := by
  cases e with
  | paren | logical | conditional => simp [spine, next]
  | _ => rfl

namespace Options.AgreeOn

theorem symm (agree : o.AgreeOn o' e) : o'.AgreeOn o e :=
  fun node member switch is => (agree node member switch is).symm

theorem self (agree : o.AgreeOn o' e) (switch : Switch) (is : e.switch? = some switch) :
    o.get switch = o'.get switch := by
  have here : e ∈ e.spine := by simp [e.spine_eq]
  exact agree e here switch is

theorem next (agree : o.AgreeOn o' e) (member : part ∈ e.next) : o.AgreeOn o' part := by
  intro node below
  have deeper : node ∈ e.spine := by
    rw [e.spine_eq]
    exact List.mem_cons_of_mem _ (List.mem_flatMap.mpr ⟨part, member, below⟩)
  exact agree node deeper

theorem descents_eq (agree : o.AgreeOn o' e) : e.descents o = e.descents o' := by
  have same : o.looksInto e = o'.looksInto e := by
    cases e with
    | logical op left right => exact agree.self .shortCircuit rfl
    | conditional test consequent alternate => exact agree.self .ternary rfl
    | _ => rfl
  rw [Expr.descents, Expr.descents, same]

theorem flaggable (agree : o.AgreeOn o' e) (flaggable : e.Flaggable o) : e.Flaggable o' := by
  cases flaggable with
  | value shape => exact .value shape
  | logical stopped => exact .logical ((agree.self .shortCircuit rfl).symm.trans stopped)
  | conditional stopped => exact .conditional ((agree.self .ternary rfl).symm.trans stopped)
  | taggedTemplate refused => exact .taggedTemplate ((agree.self .taggedTemplates rfl).symm.trans refused)
  | jsxElement enforced => exact .jsxElement ((agree.self .jsx rfl).symm.trans enforced)
  | jsxFragment enforced => exact .jsxFragment ((agree.self .jsx rfl).symm.trans enforced)

theorem isUnused_eq (agree : o.AgreeOn o' e) : e.isUnused o = e.isUnused o' := by
  induction e using Expr.next_induction with | step e ih
  have same := agree.descents_eq
  rw [Bool.eq_iff_iff]
  by_cases last : e.descents o = []
  · rw [Expr.isUnused_of_stop last, Expr.isUnused_of_stop (same ▸ last)]
    exact ⟨agree.flaggable, agree.symm.flaggable⟩
  · rw [Expr.isUnused_of_descents last, Expr.isUnused_of_descents (same ▸ last), ← same, List.any_eq_true,
      List.any_eq_true]
    refine exists_congr fun part => and_congr_right fun member => ?_
    have below := Expr.mem_next_of_mem_descents member
    rw [ih part below (agree.next below)]

theorem isValid_eq {s : Occurrence} (agree : o.AgreeOn o' s.expr) : s.isValid o = s.isValid o' := by
  -- The options are only asked whether the expression is unused.
  rw [Occurrence.isValid, Occurrence.isValid, Expr.isAcceptable, Expr.isAcceptable, agree.isUnused_eq]

end Options.AgreeOn

theorem Program.violations_of_agreeOn {p : Program} (severity : Severity)
    (agree : ∀ s ∈ p.occurrences, o.AgreeOn o' s.expr) :
    p.violations ⟨severity, o⟩ = p.violations ⟨severity, o'⟩ := by
  unfold violations
  by_cases off : severity = .off
  · rw [if_pos off, if_pos off]
  · rw [if_neg off, if_neg off]
    refine List.filter_congr fun s member => ?_
    rw [(agree s member).isValid_eq]

/-- A statement is reported under both of two sets of options or under none, if they agree on the switches of all
    constructs on its spine. If this holds of all statements of a program, the reports are the same. -/
theorem lint_of_agreeOn (p : Program) (severity : Severity) (o o' : Options) :
    (∀ s ∈ p.occurrences, o.AgreeOn o' s.expr →
      (s ∈ p.violations ⟨severity, o⟩ ↔ s ∈ p.violations ⟨severity, o'⟩)) ∧
    ((∀ s ∈ p.occurrences, o.AgreeOn o' s.expr) → p.lint ⟨severity, o⟩ = p.lint ⟨severity, o'⟩) := by
  constructor
  · intro s _ agree
    rw [Program.mem_violations_iff, Program.mem_violations_iff, agree.isValid_eq]
  · intro agree
    rw [Program.lint_eq_violations, Program.lint_eq_violations, Program.violations_of_agreeOn severity agree]

/-- Ternaries, tagged templates and JSX do not matter to `a && f(b ? c : d)` and `(<e/>, g``)`. -/
theorem lint_of_arguments_and_members :
    ∃ p : Program,
      (∀ s ∈ p.occurrences, Options.AgreeOn { allowShortCircuit := true } ⟨true, true, true, true⟩ s.expr) ∧
      p.lint (.error { allowShortCircuit := true }) = [Rule.diagnostic .error ⟨20, 32⟩] ∧
      p.lint (.error { allowShortCircuit := true }) = p.lint (.error ⟨true, true, true, true⟩) := by
  let p : Program := .script
    [.expr ⟨1, 19⟩ (.logical .and (.ident "a")
      (.call (.ident "f") [.conditional (.ident "b") (.ident "c") (.ident "d")])),
     .expr ⟨20, 32⟩ (.paren (.sequence [.jsxElement [] [], .taggedTemplate (.ident "g") []]))]
  have agree : ∀ s ∈ p.occurrences,
      Options.AgreeOn { allowShortCircuit := true } ⟨true, true, true, true⟩ s.expr := by decide +kernel
  exact ⟨p, agree, by decide +kernel, (lint_of_agreeOn p .error _ _).2 agree⟩

end UnusedExpr
