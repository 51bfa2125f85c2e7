import UnusedExpr.Proofs.Roles

/-! # Which statements are directives

A statement that a visit reaches is a directive just if it is in the run of string statements that starts a
program or the body of a function-like construct. This is read off the tree alone: from the statement's own
place, the list that holds it and the construct around that list. What the stack leaves out, such as loops,
branches, labels and namespaces between a statement and the innermost scope, cannot make a difference, because
the addresses of a run lead to the elements of the list and not to what lies under them. -/

namespace UnusedExpr

/-- A statement that consists of a string literal, in any number of parentheses. -/
def Node.IsStringStatement (node : Node) : Prop :=
  ∃ span e value, node = .stmt (.expr span e) ∧ e.unparen = .string value

/-- The block that is the body of a function-like construct. -/
def Node.functionBody? : Node → Option Block
  | .func (.mk _ _ body) | .member (.constructor _ _ body) => body
  | .property (.getter _ body) | .property (.setter _ _ _ body) => body
  | .expr (.arrow _ body) => some body
  | _ => none

/-- The lists of the tree under `root` that start with directives, with their addresses. -/
inductive Node.DirectiveList (root : Node) : Address → Node → Prop
  | module {address : Address} {items : List Item} (found : root.nodeAt? address = some (.module items)) :
      DirectiveList root address (.module items)
  | script {address : Address} {stmts : List Stmt} (found : root.nodeAt? address = some (.script stmts)) :
      DirectiveList root address (.script stmts)
  | body {address : Address} {index : Nat} {construct : Node} {block : Block}
      (above : root.nodeAt? address = some construct) (owned : construct.functionBody? = some block)
      (found : root.nodeAt? (index :: address) = some (.block block)) :
      DirectiveList root (index :: address) (.block block)

theorem Node.DirectiveList.found {root list : Node} {above : Address} (directives : root.DirectiveList above list) :
    root.nodeAt? above = some list := by
  cases directives <;> assumption

/-! ### Runs -/

theorem lt_length_takeWhile_iff {α : Type} {p : α → Bool} {l : List α} {index : Nat} :
    index < (l.takeWhile p).length ↔ ∀ i ≤ index, ∃ x, l[i]? = some x ∧ p x = true := by
  induction l generalizing index with
  | nil => simpa using ⟨0, Nat.zero_le index⟩
  | cons x rest ih =>
    cases leads : p x with
    | false =>
      rw [List.takeWhile_cons_of_neg (by simp [leads])]
      refine iff_of_false (by simp) fun all => ?_
      obtain ⟨y, here, holds⟩ := all 0 (Nat.zero_le index)
      obtain rfl : x = y := by simpa using here
      simp [leads] at holds
    | true =>
      rw [List.takeWhile_cons_of_pos leads, List.length_cons]
      cases index with
      | zero => simp [leads]
      | succ index =>
        rw [Nat.succ_lt_succ_iff, ih]
        constructor
        · rintro all (_ | i) bound
          · exact ⟨x, rfl, leads⟩
          · exact all i (Nat.le_of_succ_le_succ bound)
        · intro all i bound
          exact all (i + 1) (Nat.succ_le_succ bound)

namespace Node
variable {root node child construct list : Node} {address above : Address} {role : Role} {index : Nat}

theorem isDirectiveLike_iff : node.isDirectiveLike = true ↔ node.IsStringStatement := by
  constructor
  · intro like
    unfold isDirectiveLike Stmt.isDirectiveLike Expr.isString at like
    split at like
    · split at like
      · rename_i span e
        split at like
        · rename_i value same
          exact ⟨span, e, value, rfl, same⟩
        · cases like
      · cases like
    · cases like
  · rintro ⟨span, e, value, rfl, same⟩
    simp [isDirectiveLike, Stmt.isDirectiveLike, Expr.isString, same]

theorem lt_runLength_iff :
    index < node.runLength ↔ ∀ i ≤ index, ∃ element, node.children[i]? = some element ∧ element.IsStringStatement := by
  simp only [runLength, lt_length_takeWhile_iff, isDirectiveLike_iff]

/-! ### Roles along an address -/

/-- The role of the node at an address. -/
def roleAt (root : Node) : Address → Role
  | [] => .other
  | index :: address => (root.nodeAt? address).elim .other fun parent => parent.childRole (root.roleAt address) index

theorem roleAt_cons (index : Nat) (found : root.nodeAt? address = some node) :
    root.roleAt (index :: address) = node.childRole (root.roleAt address) index := by
  rw [roleAt, found]
  rfl

theorem childRole_eq_leading_iff :
    node.childRole role index = .leading ↔ node.holdsDirectives role = true ∧ index < node.runLength := by
  unfold childRole
  split
  · split <;> simp_all
  · split <;> simp_all

theorem childRole_eq_body_iff : node.childRole role index = .body ↔ node.isFunctionLike = true := by
  unfold childRole
  split
  case isTrue holds =>
    have plain : node.isFunctionLike = false := by
      cases node <;> first | rfl | cases holds | simp [isFunctionLike, scope?_block]
    rw [plain]
    split <;> simp
  case isFalse => split <;> simp_all

/-- The stack of a walk from the root agrees with the roles at every address. -/
theorem fits_roleAt (fits : root.Fits .other [] []) (found : root.nodeAt? address = some node) :
    node.Fits (root.roleAt address) (root.scopesAt address) address := by
  induction address generalizing node with
  | nil =>
    obtain rfl := Option.some.inj found
    exact fits
  | cons index address ih =>
    obtain ⟨parent, above, below⟩ := nodeAt?_cons_eq_some.mp found
    rw [roleAt_cons index above, scopesAt_cons index above]
    exact fits_child (ih above) below

/-! ### Bodies of functions -/

theorem isFunctionLike_of_functionBody? {block : Block} (owned : construct.functionBody? = some block) :
    construct.isFunctionLike = true := by
  unfold functionBody? at owned
  split at owned <;> first | rfl | cases owned

attribute [local grind =] functionBody?

/-- The only block directly under a function-like construct is its body. -/
theorem functionBody?_of_mem_children {block : Block} (function : construct.isFunctionLike = true)
    (member : .block block ∈ construct.children) : construct.functionBody? = some block := by
  have opened := (scope?_eq_function_iff construct []).mpr function
  unfold scope? at opened
  split at opened
  case h_4 f => cases f; grind
  all_goals grind

/-- The leading strings of a list are directives in its role just if it is one of the lists of directives. -/
theorem holdsDirectives_iff_directiveList (found : root.nodeAt? above = some list) :
    list.holdsDirectives (root.roleAt above) = true ↔ root.DirectiveList above list := by
  constructor
  · intro holds
    cases list with
    | module => exact .module found
    | script => exact .script found
    | block block =>
      have body : root.roleAt above = .body := by simpa [holdsDirectives] using holds
      cases above with
      | nil => cases body
      | cons index address =>
        obtain ⟨construct, upper, under⟩ := nodeAt?_cons_eq_some.mp found
        rw [roleAt_cons index upper, childRole_eq_body_iff] at body
        exact .body upper (functionBody?_of_mem_children body (List.mem_of_getElem? under)) found
    | _ => cases holds
  · rintro (_ | _ | ⟨upper, owned, _⟩)
    · rfl
    · rfl
    · rw [roleAt_cons _ upper, holdsDirectives, decide_eq_true_iff]
      exact childRole_eq_body_iff.mpr (isFunctionLike_of_functionBody? owned)

end Node

/-- A statement that a visit of a program reaches is a directive, by the stack of that moment, just if it is the
    element at some index of a list of directives and the elements up to it are string statements. -/
theorem isDirective_iff_in_leading_run {σ : Type} [Reporter σ] {p : Program} {setting : Setting} {reporter : σ}
    {v : Visitor σ} {address : Address} {span : Span} {e : Expr}
    (reached : (Visitor.start setting reporter).Calls [] (.program p) v address (.stmt (.expr span e))) :
    isDirective v.scopes address = true ↔
      ∃ (index : Nat) (above : Address) (list : Node), address = index :: above ∧
        (Node.program p).DirectiveList above list ∧ list.children[index]? = some (.stmt (.expr span e)) ∧
        ∀ i ≤ index, ∃ element, list.children[i]? = some element ∧ element.IsStringStatement := by
  have root : (Node.program p).nodeAt? [] = some (.program p) := rfl
  obtain ⟨found, around⟩ := reached.standing root rfl
  have start : (Node.program p).Fits .other [] [] := trivial
  have fits : Settled ((Node.program p).roleAt address) ((Node.program p).scopesAt address) address :=
    Node.fits_roleAt start found
  rw [around, fits.own]
  cases address with
  | nil => cases found
  | cons index above =>
    obtain ⟨list, upper, here⟩ := Node.nodeAt?_cons_eq_some.mp found
    rw [Node.roleAt_cons index upper, Node.childRole_eq_leading_iff, Node.holdsDirectives_iff_directiveList upper,
      Node.lt_runLength_iff]
    constructor
    · rintro ⟨directives, strings⟩
      exact ⟨index, above, list, rfl, directives, here, strings⟩
    · rintro ⟨_, _, list', ⟨rfl, rfl⟩, directives, -, strings⟩
      obtain rfl := Option.some.inj (upper.symm.trans directives.found)
      exact ⟨directives, strings⟩

/-- The string in the body of a function that a program declares is a directive. -/
theorem isDirective_in_function_body :
    ∃ v : Visitor (List Diagnostic),
      (Visitor.start .standard []).Calls []
        (.program (.script [.function (.mk [] [] (some (.mk [.expr ⟨17, 29⟩ (.string "use strict")])))])) v
        [0, 0, 0, 0, 0] (.stmt (.expr ⟨17, 29⟩ (.string "use strict"))) ∧
      isDirective v.scopes [0, 0, 0, 0, 0] = true := by
  have reached : (Visitor.start Setting.standard ([] : List Diagnostic)).Calls []
      (.program (.script [.function (.mk [] [] (some (.mk [.expr ⟨17, 29⟩ (.string "use strict")])))])) _
      [0, 0, 0, 0, 0] (.stmt (.expr ⟨17, 29⟩ (.string "use strict"))) :=
    .child [] [] rfl rfl (.child [] [] rfl rfl (.child [] [] rfl rfl (.child [] [] rfl rfl (.child [] [] rfl rfl
      (.self _ _ _)))))
  refine ⟨_, reached, (isDirective_iff_in_leading_run reached).mpr ?_⟩
  refine ⟨0, [0, 0, 0, 0], _, rfl, .body rfl rfl rfl, rfl, ?_⟩
  intro i first
  obtain rfl := Nat.le_zero.mp first
  exact ⟨_, rfl, _, _, "use strict", rfl, rfl⟩

end UnusedExpr
