import UnusedExpr.Proofs.Places
import UnusedExpr.Proofs.Violations

/-! # Spans are only passed on

No answer of the rule looks at a span: a statement is known by where it stands in the tree. So if the spans of a
program are changed by any function, even by one that makes them all the same, the same statements are reported
in the same order, and each diagnostic has the changed span of its statement. -/

namespace UnusedExpr

/-- The rebuild that changes spans and nothing else. -/
def Rebuild.mapSpans (f : Span → Span) : Rebuild where
  span := f
  expr := id

/-- The program with a function applied to all its spans. -/
def Program.mapSpans (f : Span → Span) (p : Program) : Program :=
  p.rebuild (.mapSpans f)

/-- The same statement in the program with changed spans. -/
def Occurrence.mapSpans (f : Span → Span) (s : Occurrence) : Occurrence :=
  { s with span := f s.span, expr := s.expr.rebuild (.mapSpans f) }

variable {f : Span → Span}

theorem Rebuild.mapSpans_keeps : (Rebuild.mapSpans f).Keeps where
  shown _ _ := rfl
  string _ := rfl
  named _ _ := rfl
  unused _ _ := rfl
  expectBelow _ := rfl
  shouldBelow _ := rfl
  should _ := rfl

theorem Rebuild.mapSpans_keepsPlaces : (Rebuild.mapSpans f).KeepsPlaces where
  children _ := rfl
  function _ := rfl

theorem Occurrence.isValid_mapSpans (o : Options) (s : Occurrence) : (s.mapSpans f).isValid o = s.isValid o := by
  -- The address and the stack are the same, so the changed statement is a directive just if the old one is.
  exact s.sighting.isValid_rebuild (Rebuild.mapSpans_keeps (f := f)) (fun _ => rfl) o

theorem Program.violations_mapSpans (p : Program) (setting : Setting) :
    (p.mapSpans f).violations setting = (p.violations setting).map (Occurrence.mapSpans f) := by
  have found : (p.mapSpans f).occurrences = p.occurrences.map (Occurrence.mapSpans f) :=
    p.occurrences_rebuild Rebuild.mapSpans_keeps Rebuild.mapSpans_keepsPlaces
  have same : (fun s : Occurrence => !s.isValid setting.options) ∘ Occurrence.mapSpans f =
      fun s => !s.isValid setting.options := by
    funext s
    rw [Function.comp_apply, Occurrence.isValid_mapSpans]
  unfold violations
  split
  · rfl
  · rw [found, List.filter_map, same]

/-- If a function is applied to all spans of a program, the same statements are reported in the same order, and
    each diagnostic has the changed span of its statement. -/
theorem lint_mapSpans (f : Span → Span) (p : Program) (setting : Setting) :
    (p.mapSpans f).lint setting = (p.lint setting).map (fun d => { d with span := f d.span }) ∧
    (p.mapSpans f).violations setting = (p.violations setting).map (Occurrence.mapSpans f) := by
  refine ⟨?_, p.violations_mapSpans setting⟩
  rw [Program.lint_eq_violations, Program.lint_eq_violations, Program.violations_mapSpans, List.map_map, List.map_map]
  rfl

end UnusedExpr
