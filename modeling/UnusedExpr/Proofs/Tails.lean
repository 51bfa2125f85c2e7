import UnusedExpr.Rule.Unused

/-! # Tails

Whether an expression is unused is decided at its tails. To find them one goes into parentheses, from a logical
expression to its right operand if short circuits are allowed, and from a conditional to both branches if ternaries
are; a tail is where this ends. The expression is unused just if one of its tails has a shape that gives only a value
(`isUnused_iff_exists_tail`). What is passed by on the way, the left operands and the tests, has no say. -/

namespace UnusedExpr

/-- The parts of an expression that may decide for it. -/
def Expr.next : Expr → List Expr
  | .paren inner => [inner]
  | .logical _ _ right => [right]
  | .conditional _ consequent alternate => [consequent, alternate]
  | _ => []

/-- Whether the options leave it to the parts of an expression to decide for it. -/
def Options.looksInto (o : Options) : Expr → Bool
  | .logical .. => o.allowShortCircuit
  | .conditional .. => o.allowTernary
  | _ => true

namespace Expr

/-- The parts of an expression that decide for it. -/
def descents (o : Options) (e : Expr) : List Expr :=
  if o.looksInto e then e.next else []

/-- The second expression is where a descent from the first one ends. -/
inductive Tail (o : Options) : Expr → Expr → Prop
  | stop {e : Expr} (last : e.descents o = []) : Tail o e e
  | step {e next tail : Expr} (member : next ∈ e.descents o) (deeper : Tail o next tail) : Tail o e tail

/-- Whether an expression gives only a value, whatever the options are. -/
def isValue : Expr → Bool
  | .string _ | .literal _ | .ident _ | .thisExpr | .metaProperty => true
  | .member .. | .superMember _ | .superComputed _ | .optMember .. => true
  | .array _ | .object _ | .function _ | .arrow .. | .conciseArrow .. | .classExpr _ => true
  | .template _ | .sequence _ | .binary .. => true
  | .unary op _ => op != .void && op != .delete
  | _ => false

/-- The shapes for which a tail is reported. -/
inductive Flaggable (o : Options) : Expr → Prop
  | value {e : Expr} (shape : e.isValue = true) : Flaggable o e
  | logical {op : LogicalOp} {left right : Expr} (stopped : o.allowShortCircuit = false) :
      Flaggable o (.logical op left right)
  | conditional {test consequent alternate : Expr} (stopped : o.allowTernary = false) :
      Flaggable o (.conditional test consequent alternate)
  | taggedTemplate {tag : Expr} {es : List Expr} (refused : o.allowTaggedTemplates = false) :
      Flaggable o (.taggedTemplate tag es)
  | jsxElement {attributes children : List Expr} (enforced : o.enforceForJsx = true) :
      Flaggable o (.jsxElement attributes children)
  | jsxFragment {children : List Expr} (enforced : o.enforceForJsx = true) : Flaggable o (.jsxFragment children)

/-- The second expression is the first one with other left operands and tests on the way to its tails. -/
inductive DiffersAside : Expr → Expr → Prop
  | refl (e : Expr) : DiffersAside e e
  | paren {e f : Expr} (inner : DiffersAside e f) : DiffersAside (.paren e) (.paren f)
  | logical {e f : Expr} (op : LogicalOp) (left left' : Expr) (right : DiffersAside e f) :
      DiffersAside (.logical op left e) (.logical op left' f)
  | conditional {e f e' f' : Expr} (test test' : Expr) (consequent : DiffersAside e f)
      (alternate : DiffersAside e' f') : DiffersAside (.conditional test e e') (.conditional test' f f')

variable {o : Options} {e part : Expr}

/-! ### One step -/

theorem sizeOf_lt_of_mem_next (member : part ∈ e.next) : sizeOf part < sizeOf e := by
  cases e with
  | paren inner =>
    obtain rfl := List.mem_singleton.mp member
    rw [Expr.paren.sizeOf_spec]
    omega
  | logical op left right =>
    obtain rfl := List.mem_singleton.mp member
    rw [Expr.logical.sizeOf_spec]
    omega
  | conditional test consequent alternate =>
    rw [Expr.conditional.sizeOf_spec]
    obtain rfl | rfl : part = consequent ∨ part = alternate := by simpa [next] using member
    · omega
    · omega
  | _ => cases member

/-- What holds of an expression whenever it holds of the parts that may decide for it holds of every expression. -/
theorem next_induction {motive : Expr → Prop} (step : ∀ e, (∀ part ∈ e.next, motive part) → motive e) (e : Expr) :
    motive e :=
  step e fun part _ => next_induction step part
termination_by sizeOf e
decreasing_by exact sizeOf_lt_of_mem_next ‹_›

theorem mem_next_of_mem_descents (member : part ∈ e.descents o) : part ∈ e.next := by
  unfold descents at member
  split at member
  · exact member
  · cases member

theorem isUnused_of_descents (goes : e.descents o ≠ []) :
    e.isUnused o = (e.descents o).any fun part => part.isUnused o := by
  cases e with
  | paren inner => exact (Bool.or_false _).symm
  | logical op left right =>
    cases allowed : o.allowShortCircuit with
    | true => simp [isUnused, descents, next, Options.looksInto, allowed]
    | false => simp [descents, Options.looksInto, allowed] at goes
  | conditional test consequent alternate =>
    cases allowed : o.allowTernary with
    | true => simp [isUnused, descents, next, Options.looksInto, allowed]
    | false => simp [descents, Options.looksInto, allowed] at goes
  | _ => exact absurd rfl goes

theorem isUnused_of_stop (last : e.descents o = []) : e.isUnused o = true ↔ e.Flaggable o := by
  cases e with
  | paren inner => cases last
  | logical op left right =>
    cases stopped : o.allowShortCircuit with
    | true => simp [descents, next, Options.looksInto, stopped] at last
    | false => exact iff_of_true (by simp [isUnused, stopped]) (.logical stopped)
  | conditional test consequent alternate =>
    cases stopped : o.allowTernary with
    | true => simp [descents, next, Options.looksInto, stopped] at last
    | false => exact iff_of_true (by simp [isUnused, stopped]) (.conditional stopped)
  | taggedTemplate tag es =>
    rw [isUnused, Bool.not_eq_true']
    refine ⟨.taggedTemplate, fun flaggable => ?_⟩
    cases flaggable with
    | value shape => cases shape
    | taggedTemplate refused => exact refused
  | jsxElement attributes children =>
    refine ⟨.jsxElement, fun flaggable => ?_⟩
    cases flaggable with
    | value shape => cases shape
    | jsxElement enforced => exact enforced
  | jsxFragment children =>
    refine ⟨.jsxFragment, fun flaggable => ?_⟩
    cases flaggable with
    | value shape => cases shape
    | jsxFragment enforced => exact enforced
  | _ =>
    refine ⟨fun shape => .value shape, fun flaggable => ?_⟩
    cases flaggable with
    | value shape => exact shape

/-! ### The whole descent -/

theorem isUnused_iff_exists_tail : e.isUnused o = true ↔ ∃ tail, e.Tail o tail ∧ tail.Flaggable o := by
  constructor
  · intro unused
    induction e using next_induction with | step e ih
    by_cases last : e.descents o = []
    · exact ⟨e, .stop last, (isUnused_of_stop last).mp unused⟩
    · rw [isUnused_of_descents last, List.any_eq_true] at unused
      obtain ⟨part, member, found⟩ := unused
      obtain ⟨tail, deeper, flaggable⟩ := ih part (mem_next_of_mem_descents member) found
      exact ⟨tail, .step member deeper, flaggable⟩
  · rintro ⟨tail, reached, flaggable⟩
    induction reached with
    | stop last => exact (isUnused_of_stop last).mpr flaggable
    | step member deeper ih =>
      rw [isUnused_of_descents (List.ne_nil_of_mem member), List.any_eq_true]
      exact ⟨_, member, ih flaggable⟩

theorem DiffersAside.isUnused_eq {f : Expr} (aside : e.DiffersAside f) (o : Options) :
    f.isUnused o = e.isUnused o := by
  induction aside with
  | refl e => rfl
  | paren inner ih => exact ih
  | logical op left left' right ih => rw [isUnused, isUnused, ih]
  | conditional test test' consequent alternate ih ih' => rw [isUnused, isUnused, ih, ih']

end Expr

/-- An expression is unused just if some tail of it has a shape that is reported. So no left operand of a logical
    expression and no test of a conditional on the way to the tails matters, under any options. -/
theorem isUnused_iff_flaggable_tail (o : Options) (e : Expr) :
    (e.isUnused o = true ↔ ∃ tail, e.Tail o tail ∧ tail.Flaggable o) ∧
    ∀ f : Expr, e.DiffersAside f → f.isUnused o = e.isUnused o := by
  refine ⟨Expr.isUnused_iff_exists_tail, ?_⟩
  intro f aside
  exact aside.isUnused_eq o

/-- In `a && (b ? c() : d)` the tail `d` decides, also with `f()` for `a` and `<g/>` for `b`. -/
theorem isUnused_by_last_branch :
    Expr.isUnused { allowShortCircuit := true, allowTernary := true } (.logical .and (.call (.ident "f") [])
      (.paren (.conditional (.jsxElement [] []) (.call (.ident "c") []) (.ident "d")))) = true := by
  obtain ⟨decides, aside⟩ := isUnused_iff_flaggable_tail { allowShortCircuit := true, allowTernary := true }
    (.logical .and (.ident "a") (.paren (.conditional (.ident "b") (.call (.ident "c") []) (.ident "d"))))
  have other := aside _ (.logical .and (.ident "a") (.call (.ident "f") [])
    (.paren (.conditional (.ident "b") (.jsxElement [] []) (.refl (.call (.ident "c") [])) (.refl (.ident "d")))))
  have last : Expr.Tail { allowShortCircuit := true, allowTernary := true }
      (.logical .and (.ident "a") (.paren (.conditional (.ident "b") (.call (.ident "c") []) (.ident "d"))))
      (.ident "d") :=
    .step List.mem_cons_self (.step List.mem_cons_self (.step (List.mem_cons_of_mem _ List.mem_cons_self) (.stop rfl)))
  exact other.trans (decides.mpr ⟨_, last, .value rfl⟩)

end UnusedExpr
