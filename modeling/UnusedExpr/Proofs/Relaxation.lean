import UnusedExpr.Proofs.Violations

/-! # More permissive options

A switch that is turned the permissive way can make the rule look into operands and branches that it did not look
at before. What it finds there lies in an expression that was reported as a whole, so an expression that is unused
under the more permissive options was unused before (`isUnused_of_relaxes`). Hence the statements reported under
them are those reported before that are still unused, in the same order. -/

namespace UnusedExpr

/-- The first options allow all that the second ones allow, and report JSX only if the second ones do. -/
structure Options.Relaxes (loose strict : Options) : Prop where
  shortCircuit : strict.allowShortCircuit = true → loose.allowShortCircuit = true
  ternary : strict.allowTernary = true → loose.allowTernary = true
  taggedTemplates : strict.allowTaggedTemplates = true → loose.allowTaggedTemplates = true
  jsx : loose.enforceForJsx = true → strict.enforceForJsx = true

variable {loose strict : Options}

theorem Expr.isUnused_of_relaxes (relaxes : loose.Relaxes strict) {e : Expr} (unused : e.isUnused loose = true) :
    e.isUnused strict = true := by
  cases e with
  | paren inner => exact isUnused_of_relaxes relaxes (e := inner) unused
  | logical op left right =>
    simp only [isUnused, Bool.or_eq_true, Bool.not_eq_true', ← Bool.not_eq_true] at unused ⊢
    rcases unused with stopped | found
    · exact Or.inl (mt relaxes.shortCircuit stopped)
    · exact Or.inr (isUnused_of_relaxes relaxes found)
  | conditional test consequent alternate =>
    simp only [isUnused, Bool.or_eq_true, Bool.not_eq_true', ← Bool.not_eq_true] at unused ⊢
    rcases unused with (stopped | found) | found
    · exact Or.inl (Or.inl (mt relaxes.ternary stopped))
    · exact Or.inl (Or.inr (isUnused_of_relaxes relaxes found))
    · exact Or.inr (isUnused_of_relaxes relaxes found)
  | taggedTemplate tag es =>
    simp only [isUnused, Bool.not_eq_true', ← Bool.not_eq_true] at unused ⊢
    exact mt relaxes.taggedTemplates unused
  | jsxElement attributes children | jsxFragment children => exact relaxes.jsx unused
  | _ => exact unused

theorem Occurrence.not_isValid_of_relaxes (relaxes : loose.Relaxes strict) (s : Occurrence) :
    (!s.isValid loose) = (s.expr.isUnused loose && !s.isValid strict) := by
  cases found : s.expr.isUnused loose with
  | false => simp [isValid, Expr.isAcceptable, found]
  | true =>
    -- The rest of the verdict does not look at the options.
    have before := Expr.isUnused_of_relaxes relaxes found
    simp [isValid, Expr.isAcceptable, found, before]

theorem Program.violations_of_relaxes (relaxes : loose.Relaxes strict) (p : Program) (severity : Severity) :
    p.violations ⟨severity, loose⟩ =
      (p.violations ⟨severity, strict⟩).filter fun s => s.expr.isUnused loose := by
  unfold violations
  by_cases off : severity = .off
  · rw [if_pos off, if_pos off, List.filter_nil]
  · rw [if_neg off, if_neg off, List.filter_filter]
    exact List.filter_congr fun s _ => s.not_isValid_of_relaxes relaxes

/-- Under more permissive options the same statements are reported, in the same order, less those that are not
    unused any more. So no diagnostic is new. -/
theorem lint_sublist_of_relaxes (relaxes : loose.Relaxes strict) (p : Program) (severity : Severity) :
    (p.lint ⟨severity, loose⟩).Sublist (p.lint ⟨severity, strict⟩) ∧
    p.violations ⟨severity, loose⟩ =
      (p.violations ⟨severity, strict⟩).filter fun s => s.expr.isUnused loose := by
  have fewer := p.violations_of_relaxes relaxes severity
  refine ⟨?_, fewer⟩
  rw [Program.lint_eq_violations, Program.lint_eq_violations, fewer]
  exact List.filter_sublist.map _

/-- Of `a && (b ? c() : d())` and `a && (b ? c : d())`, both reported before, the second is still reported once
    ternaries are allowed too. -/
theorem lint_sublist_of_ternary :
    ∃ p : Program,
      p.lint (.warn { allowShortCircuit := true }) = [Rule.diagnostic .warn ⟨1, 22⟩, Rule.diagnostic .warn ⟨23, 42⟩] ∧
      p.lint (.warn { allowShortCircuit := true, allowTernary := true }) = [Rule.diagnostic .warn ⟨23, 42⟩] ∧
      (p.lint (.warn { allowShortCircuit := true, allowTernary := true })).Sublist
        (p.lint (.warn { allowShortCircuit := true })) := by
  refine ⟨.script
    [.expr ⟨1, 22⟩ (.logical .and (.ident "a")
      (.paren (.conditional (.ident "b") (.call (.ident "c") []) (.call (.ident "d") [])))),
     .expr ⟨23, 42⟩ (.logical .and (.ident "a")
      (.paren (.conditional (.ident "b") (.ident "c") (.call (.ident "d") []))))],
    by decide +kernel, by decide +kernel, ?_⟩
  have relaxes : Options.Relaxes { allowShortCircuit := true, allowTernary := true } { allowShortCircuit := true } :=
    ⟨by decide, by decide, by decide, by decide⟩
  exact (lint_sublist_of_relaxes relaxes _ .warn).1

end UnusedExpr
