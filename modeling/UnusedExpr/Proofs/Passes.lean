import Mathlib.Data.List.Nodup
import UnusedExpr.Proofs.Sessions
import UnusedExpr.Proofs.Violations

/-! # What a pass shows

A pass hands to its handler the notices about the lints of its programs, one after the other, whatever the handler
does with them. The handler shows the first of equal notices and no later one, so it forgets nothing if the
reported statements have different spans. It counts an error just if the rule reports errors and found one. -/

namespace UnusedExpr

/-- A handler of any kind as a reporter: the notice about each diagnostic is handed to it by `emit`. -/
abbrev Reporter.relay {σ : Type} (emit : σ → Notice → σ) : Reporter σ where
  report handler d := d.notice?.elim handler (emit handler)

/-- The notice about a statement that the rule reports. -/
def Rule.notice (level : Level) (span : Span) : Notice where
  level := level
  message := Rule.message ++ " (" ++ Rule.id ++ ")"
  span := span

/-- The notices about the diagnostics of a program. -/
def Program.notices (p : Program) (setting : Setting) : List Notice :=
  match setting.severity with
  | .off => []
  | .warn => (p.lint setting).map fun d => Rule.notice .warning d.span
  | .error => (p.lint setting).map fun d => Rule.notice .error d.span

/-- A handler of any kind after one visitor has walked some programs. -/
def Pass.feed {σ : Type} (emit : σ → Notice → σ) (handler : σ) (setting : Setting) (programs : List Program) : σ :=
  (@Visitor.visitAll σ (.relay emit) (Visitor.start setting handler) (programs.map .program)).reporter

/-- Walks several programs in turn. -/
def Pass.runAll (pass : Pass) (programs : List Program) : Pass :=
  programs.foldl Pass.run pass

/-! ### What is handed to a handler -/

theorem Program.filterMap_notice?_lint (p : Program) (setting : Setting) :
    (p.lint setting).filterMap Diagnostic.notice? = p.notices setting := by
  have shape : (p.lint setting).filterMap Diagnostic.notice? =
      (p.lint setting).filterMap fun d => setting.severity.level?.map fun level => Rule.notice level d.span := by
    rw [lint_eq_violations, List.filterMap_map, List.filterMap_map]
    rfl
  rw [shape, notices]
  cases setting.severity with
  | off => exact List.filterMap_none _
  | warn | error => exact congrFun List.filterMap_eq_map _

theorem Program.map_span_notices (p : Program) (setting : Setting) :
    (p.notices setting).map (·.span) = (p.violations setting).map (·.span) := by
  rw [notices, lint_eq_violations]
  split
  case h_1 off => rw [violations, if_pos off]; rfl
  all_goals
    rw [List.map_map, List.map_map]
    rfl

/-- A program has a notice of an error just if the rule reports errors and found one in it. -/
theorem Program.exists_error_iff {p : Program} {setting : Setting} :
    (∃ n ∈ p.notices setting, n.level = .error) ↔ setting.severity = .error ∧ p.lint setting ≠ [] := by
  rw [notices]
  split
  case h_1 off => simp [off]
  case h_2 warn => simp [warn, Rule.notice]
  case h_3 error =>
    rw [and_iff_right error]
    constructor
    · rintro ⟨n, member, -⟩
      obtain ⟨d, found, -⟩ := List.mem_map.mp member
      exact List.ne_nil_of_mem found
    · intro found
      obtain ⟨d, member⟩ := List.exists_mem_of_ne_nil _ found
      exact ⟨_, List.mem_map.mpr ⟨d, member, rfl⟩, rfl⟩

theorem foldl_relay {σ : Type} (emit : σ → Notice → σ) (handler : σ) (due : List Diagnostic) :
    due.foldl (Reporter.relay emit).report handler = (due.filterMap Diagnostic.notice?).foldl emit handler := by
  rw [List.foldl_filterMap]
  congr
  funext handler d
  change d.notice?.elim handler (emit handler) = _
  cases d.notice? <;> rfl

/-- A pass gives its handler the notices of the programs in turn. -/
theorem Pass.feed_eq {σ : Type} (emit : σ → Notice → σ) (handler : σ) (setting : Setting)
    (programs : List Program) :
    Pass.feed emit handler setting programs =
      (programs.flatMap fun p => p.notices setting).foldl emit handler := by
  have lints : (programs.map Node.program).flatMap (fun node => node.diagnostics setting) =
      programs.flatMap fun p => p.lint setting := List.flatMap_map _ _ _
  rw [feed, @Visitor.visitAll_start σ (.relay emit), lints, Visitor.start, foldl_relay, List.filterMap_flatMap]
  simp only [Program.filterMap_notice?_lint]

/-! ### What a handler shows -/

theorem eraseDups_of_nodup {α : Type} [BEq α] [LawfulBEq α] {l : List α} (distinct : l.Nodup) : l.eraseDups = l := by
  induction l with
  | nil => rfl
  | cons x rest ih =>
    obtain ⟨absent, distinct⟩ := List.nodup_cons.mp distinct
    have same : (rest.filter fun y => !y == x) = rest := by
      rw [List.filter_eq_self]
      intro y member
      have differs : y ≠ x := fun is => absent (is ▸ member)
      simpa using differs
    rw [List.eraseDups_cons, same, ih distinct]

namespace Handler

/-- Showing one more notice keeps that the first of equal notices are shown. -/
theorem emit_eraseDups (handed : List Notice) (n : Notice) :
    Handler.emit ⟨handed.eraseDups⟩ n = ⟨(handed ++ [n]).eraseDups⟩ := by
  rw [emit, List.eraseDups_append]
  by_cases shown : n ∈ handed
  · simp [shown, List.removeAll]
  · simp [shown, List.removeAll, List.eraseDups_cons]

theorem foldl_emit (handed later : List Notice) :
    later.foldl Handler.emit ⟨handed.eraseDups⟩ = ⟨(handed ++ later).eraseDups⟩ := by
  induction later generalizing handed with
  | nil => rw [List.foldl_nil, List.append_nil]
  | cons n rest ih => rw [List.foldl_cons, emit_eraseDups, ih, List.append_assoc, List.singleton_append]

end Handler

namespace Pass
variable {setting : Setting}

theorem reporter_runAll (setting : Setting) (programs : List Program) :
    ((Pass.start setting).runAll programs).reporter = Pass.feed Handler.emit {} setting programs := by
  rw [feed, Visitor.visitAll, List.foldl_map]
  rfl

theorem shown_runAll (setting : Setting) (programs : List Program) :
    ((Pass.start setting).runAll programs).reporter.shown =
      (programs.flatMap fun p => p.notices setting).eraseDups := by
  have all := Handler.foldl_emit [] (programs.flatMap fun p => p.notices setting)
  rw [List.eraseDups_nil, List.nil_append] at all
  rw [reporter_runAll, feed_eq, all]

/-- Nothing is left out if the reported statements have different spans. -/
theorem shown_runAll_of_nodup {programs : List Program}
    (distinct : ((programs.flatMap fun p => p.violations setting).map (·.span)).Nodup) :
    ((Pass.start setting).runAll programs).reporter.shown = programs.flatMap fun p => p.notices setting := by
  have spans : ((programs.flatMap fun p => p.notices setting).map (·.span)).Nodup := by
    rw [List.map_flatMap] at distinct ⊢
    simpa only [Program.map_span_notices] using distinct
  rw [shown_runAll, eraseDups_of_nodup (List.Nodup.of_map _ spans)]

theorem hasErrors_runAll {programs : List Program} :
    ((Pass.start setting).runAll programs).reporter.hasErrors = true ↔
      setting.severity = .error ∧ ∃ p ∈ programs, p.lint setting ≠ [] := by
  have counted : ((Pass.start setting).runAll programs).reporter.hasErrors = true ↔
      ∃ p ∈ programs, ∃ n ∈ p.notices setting, n.level = .error := by
    rw [Handler.hasErrors, decide_eq_true_iff, gt_iff_lt, Handler.errorCount, List.countP_pos_iff, shown_runAll]
    simp only [List.mem_eraseDups, List.mem_flatMap, decide_eq_true_iff]
    constructor
    · rintro ⟨n, ⟨p, member, noted⟩, error⟩
      exact ⟨p, member, n, noted, error⟩
    · rintro ⟨p, member, n, noted, error⟩
      exact ⟨n, ⟨p, member, noted⟩, error⟩
  rw [counted]
  simp only [Program.exists_error_iff]
  constructor
  · rintro ⟨p, member, error, found⟩
    exact ⟨error, p, member, found⟩
  · rintro ⟨error, p, member, found⟩
    exact ⟨p, member, error, found⟩

theorem errorCount_runAll (other : setting.severity ≠ .error) (programs : List Program) :
    ((Pass.start setting).runAll programs).reporter.errorCount = 0 := by
  have none : ¬((Pass.start setting).runAll programs).reporter.hasErrors = true := by
    rw [hasErrors_runAll]
    exact fun found => other found.1
  simpa [Handler.hasErrors] using none

end Pass

/-- A pass gives to a handler of any kind the notices about the lints of its programs, one after the other. The
    handler shows the first of equal notices, hence all of them if the reported statements have different spans.
    It has errors just if they are reported as errors and there is one, and never counts any otherwise. -/
theorem pass_shows_lints (setting : Setting) (programs : List Program) :
    (∀ {σ : Type} (emit : σ → Notice → σ) (handler : σ),
      Pass.feed emit handler setting programs =
        (programs.flatMap fun p => p.notices setting).foldl emit handler) ∧
    ((Pass.start setting).runAll programs).reporter = Pass.feed Handler.emit {} setting programs ∧
    ((Pass.start setting).runAll programs).reporter.shown =
      (programs.flatMap fun p => p.notices setting).eraseDups ∧
    (((programs.flatMap fun p => p.violations setting).map (·.span)).Nodup →
      ((Pass.start setting).runAll programs).reporter.shown = programs.flatMap fun p => p.notices setting) ∧
    (((Pass.start setting).runAll programs).reporter.hasErrors = true ↔
      setting.severity = .error ∧ ∃ p ∈ programs, p.lint setting ≠ []) ∧
    (setting.severity ≠ .error → ((Pass.start setting).runAll programs).reporter.errorCount = 0) := by
  refine ⟨?_, Pass.reporter_runAll setting programs, Pass.shown_runAll setting programs, ?_, ?_, ?_⟩
  · intro σ emit handler
    exact Pass.feed_eq emit handler setting programs
  · exact Pass.shown_runAll_of_nodup
  · exact Pass.hasErrors_runAll
  · intro other
    exact Pass.errorCount_runAll other programs

example : ((Pass.start .standard).runAll
    [.script [.expr ⟨0, 2⟩ (.ident "a")], .script [.expr ⟨0, 2⟩ (.ident "b")]]).reporter.shown =
      [Rule.notice .error ⟨0, 2⟩] := by decide +kernel

/-- Warnings about two programs are both shown, and are no errors. -/
theorem pass_shows_two_warnings :
    ∃ programs : List Program,
      programs = [.script [.expr ⟨0, 2⟩ (.ident "a")], .script [.expr ⟨3, 5⟩ (.ident "a")]] ∧
      ((Pass.start (.warn {})).runAll programs).reporter.shown =
        [Rule.notice .warning ⟨0, 2⟩, Rule.notice .warning ⟨3, 5⟩] ∧
      ((Pass.start (.warn {})).runAll programs).reporter.errorCount = 0 := by
  let programs : List Program := [.script [.expr ⟨0, 2⟩ (.ident "a")], .script [.expr ⟨3, 5⟩ (.ident "a")]]
  obtain ⟨-, -, -, all, -, none⟩ := pass_shows_lints (.warn {}) programs
  have spans : (programs.flatMap fun p => p.violations (.warn {})).map (·.span) = [⟨0, 2⟩, ⟨3, 5⟩] := by
    decide +kernel
  have notices : (programs.flatMap fun p => p.notices (.warn {})) =
      [Rule.notice .warning ⟨0, 2⟩, Rule.notice .warning ⟨3, 5⟩] := by decide +kernel
  rw [spans, notices] at all
  exact ⟨programs, rfl, all (by decide), none (by decide)⟩

end UnusedExpr
