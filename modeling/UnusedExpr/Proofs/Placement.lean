import UnusedExpr.Proofs.Parentheses
import UnusedExpr.Proofs.Violations

/-! # The places of a list of statements

The same statements get the same report as a script, as the items of a module and as the body of any function.
In any other place none of them is a directive, so the string statements that start the list are reported too,
before what a script of the list reports, and nothing else is.

What a list shows depends on the roles of its statements only. They are those of a script in the places of the
first kind (`bodySightings`), and in the others no statement leads (`plainSightings`). -/

namespace UnusedExpr

/-- The spans of the string statements that start a list. -/
def leadingSpans : List Stmt → List Span
  | .expr span e :: rest => if e.isString then span :: leadingSpans rest else []
  | _ => []

/-- The statements are the body of a function, an arrow function, a constructor, a getter or a setter somewhere
    in the tree. The address is that of the block. Declared functions, function expressions and the methods of
    objects and classes all hold a function. -/
inductive Node.FunctionBodyAt (root : Node) (stmts : List Stmt) : Address → Prop
  | body {address : Address} {construct : Node} {index : Nat} (above : root.nodeAt? address = some construct)
      (owned : construct.functionBody? = some (.mk stmts))
      (found : construct.children[index]? = some (.block (.mk stmts))) :
      FunctionBodyAt root stmts (index :: address)

/-- The statements stand somewhere in the tree, but not as a program or the body of a function. The address is
    that of the node whose children they are, and the number tells how many children come before them. -/
inductive Node.PlainListAt (root : Node) (stmts : List Stmt) : Address → Nat → Prop
  /-- A block that is a statement, be it in a list or as the body of a loop or a branch. -/
  | block {address : Address} (found : root.nodeAt? address = some (.stmt (.block (.mk stmts)))) :
      PlainListAt root stmts (0 :: address) 0
  | staticBlock {address : Address} (found : root.nodeAt? address = some (.member (.staticBlock (.mk stmts)))) :
      PlainListAt root stmts (0 :: address) 0
  | tryBlock {address : Address} {handler : Option CatchClause} {finalizer : Option Block}
      (found : root.nodeAt? address = some (.stmt (.tryStmt (.mk stmts) handler finalizer))) :
      PlainListAt root stmts (0 :: address) 0
  | catchBlock {address : Address} {param : Option Pattern}
      (found : root.nodeAt? address = some (.catchClause (.mk param (.mk stmts)))) :
      PlainListAt root stmts (param.toList.length :: address) 0
  | finallyBlock {address : Address} {block : Block} {handler : Option CatchClause}
      (found : root.nodeAt? address = some (.stmt (.tryStmt block handler (some (.mk stmts))))) :
      PlainListAt root stmts ((handler.toList.length + 1) :: address) 0
  | switchCase {address : Address} {test : Option Expr}
      (found : root.nodeAt? address = some (.switchCase (.mk test stmts))) :
      PlainListAt root stmts address test.toList.length
  | namespaceBody {address : Address} (found : root.nodeAt? address = some (.stmt (.namespaceDecl (stmts.map .stmt)))) :
      PlainListAt root stmts address 0

/-! ### What a list shows -/

/-- What a list shows where the string statements at its start lead. -/
def bodySightings (stmts : List Stmt) : List Sighting :=
  (stmts.takeWhile Stmt.isDirectiveLike).flatMap (fun s => (Node.stmt s).sightings .leading) ++
    (stmts.dropWhile Stmt.isDirectiveLike).flatMap fun s => (Node.stmt s).sightings .other

/-- What a list shows where nothing leads. -/
def plainSightings (stmts : List Stmt) : List Sighting :=
  stmts.flatMap fun s => (Node.stmt s).sightings .other

theorem bodySightings_of_head {stmts : List Stmt} (starts : ∀ s ∈ stmts.head?, s.isDirectiveLike = false) :
    bodySightings stmts = plainSightings stmts := by
  cases stmts with
  | nil => rfl
  | cons s rest =>
    have other : ¬s.isDirectiveLike = true := by simp [starts s rfl]
    rw [bodySightings, List.takeWhile_cons_of_neg other, List.dropWhile_cons_of_neg other]
    rfl

theorem flatMap_zipIdx_fst {α β : Type} (f : α → List β) (l : List α) (start : Nat) :
    ((l.zipIdx start).flatMap fun x => f x.1) = l.flatMap f := by
  conv => rhs; rw [← List.zipIdx_map_fst start l, List.flatMap_map]

theorem flatMap_zipIdx_run {α β : Type} (f g : α → List β) (run rest : List α) :
    ((run ++ rest).zipIdx.flatMap fun x => if x.2 < run.length then f x.1 else g x.1) =
      run.flatMap f ++ rest.flatMap g := by
  have inside : ∀ x ∈ run.zipIdx, (if x.2 < run.length then f x.1 else g x.1) = f x.1 := by
    intro x member
    have bound := List.snd_lt_of_mem_zipIdx member
    rw [if_pos (by omega)]
  have outside : ∀ x ∈ rest.zipIdx run.length, (if x.2 < run.length then f x.1 else g x.1) = g x.1 := by
    intro x member
    rw [if_neg (Nat.not_lt.mpr (List.le_snd_of_mem_zipIdx member))]
  rw [List.zipIdx_append, List.flatMap_append, Nat.zero_add, List.flatMap_congr inside, List.flatMap_congr outside,
    flatMap_zipIdx_fst, flatMap_zipIdx_fst]

theorem flatMap_sightings_of_leading {stmts : List Stmt} {roleOf : Nat → Role}
    (leads : ∀ index, roleOf index =
      if index < (stmts.takeWhile Stmt.isDirectiveLike).length then .leading else .other) :
    ((stmts.map Node.stmt).zipIdx.flatMap fun x => x.1.sightings (roleOf x.2)) = bodySightings stmts := by
  have split := flatMap_zipIdx_run (fun s => (Node.stmt s).sightings .leading)
    (fun s => (Node.stmt s).sightings .other) (stmts.takeWhile Stmt.isDirectiveLike)
    (stmts.dropWhile Stmt.isDirectiveLike)
  rw [List.takeWhile_append_dropWhile] at split
  rw [List.zipIdx_map, List.flatMap_map, bodySightings, ← split]
  refine List.flatMap_congr fun x _ => ?_
  rw [Prod.map_fst, Prod.map_snd, id, leads]
  split <;> rfl

theorem flatMap_sightings_of_other {stmts : List Stmt} {start : Nat} {roleOf : Nat → Role}
    (other : ∀ index, roleOf index = .other) :
    (((stmts.map Node.stmt).zipIdx start).flatMap fun x => x.1.sightings (roleOf x.2)) = plainSightings stmts := by
  simp only [other]
  rw [flatMap_zipIdx_fst, List.flatMap_map, plainSightings]

namespace Node
variable {node : Node} {role : Role} {stmts : List Stmt}

theorem childRole_of_list (holds : node.holdsDirectives role = true) (list : node.children = stmts.map .stmt)
    (index : Nat) : node.childRole role index =
      if index < (stmts.takeWhile Stmt.isDirectiveLike).length then .leading else .other := by
  rw [childRole_of_holdsDirectives holds, runLength_of_stmts list]

theorem sightings_of_list (holds : node.holdsDirectives role = true) (list : node.children = stmts.map .stmt) :
    node.sightings role = bodySightings stmts := by
  have own : node.ownSighting? role = none := by
    cases node with
    | stmt => cases holds
    | _ => rfl
  rw [sightings_eq, own, list, flatMap_sightings_of_leading (childRole_of_list holds list)]
  rfl

end Node

theorem Program.sightings_of_child {p : Program} {child : Node} (only : p.children = [child]) :
    (Node.program p).sightings .other = child.sightings .other := by
  rw [Node.sightings_eq, Node.children, only]
  simp [Node.ownSighting?, Node.childRole, Node.holdsDirectives, Node.isFunctionLike, Node.scope?]

theorem Program.lint_script (stmts : List Stmt) (setting : Setting) :
    (Program.script stmts).lint setting = setting.findings (bodySightings stmts) := by
  rw [lint_eq_findings, sightings_of_child rfl, Node.sightings_of_list rfl rfl]

theorem Program.lint_module (stmts : List Stmt) (setting : Setting) :
    (Program.module (stmts.map .stmt)).lint setting = setting.findings (bodySightings stmts) := by
  have list : (Node.module (stmts.map .stmt)).children = stmts.map .stmt := List.map_map
  rw [lint_eq_findings, sightings_of_child rfl, Node.sightings_of_list rfl list]

/-! ### What is reported for a list in a program -/

namespace Node
variable {root parent : Node} {stmts : List Stmt} {address : Address} {start : Nat}

theorem FunctionBodyAt.holder (held : root.FunctionBodyAt stmts address) :
    root.nodeAt? address = some (.block (.mk stmts)) ∧ root.roleAt address = .body := by
  obtain ⟨above, owned, found⟩ := held
  refine ⟨nodeAt?_cons_eq_some.mpr ⟨_, above, found⟩, ?_⟩
  rw [roleAt_cons _ above]
  exact childRole_eq_body_iff.mpr (isFunctionLike_of_functionBody? owned)

theorem childRole_of_plain_block {held : Nat} (above : root.nodeAt? address = some parent)
    (plain : parent.isFunctionLike = false) (block : Block) (index : Nat) :
    (Node.block block).childRole (root.roleAt (held :: address)) index = .other := by
  have role : root.roleAt (held :: address) ≠ .body := by
    rw [roleAt_cons held above, Ne, childRole_eq_body_iff, plain]
    simp
  simp [childRole, holdsDirectives, role, isFunctionLike, scope?_block]

theorem PlainListAt.of_block {held : Nat} (above : root.nodeAt? address = some parent)
    (plain : parent.isFunctionLike = false) (found : parent.children[held]? = some (.block (.mk stmts))) :
    ∃ holder before, root.nodeAt? (held :: address) = some holder ∧
      holder.children = before ++ stmts.map .stmt ++ [] ∧ before.length = 0 ∧
      ∀ index, holder.childRole (root.roleAt (held :: address)) index = .other := by
  refine ⟨.block (.mk stmts), [], nodeAt?_cons_eq_some.mpr ⟨parent, above, found⟩, ?_, rfl, ?_⟩
  · simp [children]
  · exact childRole_of_plain_block above plain (.mk stmts)

theorem PlainListAt.holder (held : root.PlainListAt stmts address start) :
    ∃ holder before, root.nodeAt? address = some holder ∧ holder.children = before ++ stmts.map .stmt ++ [] ∧
      before.length = start ∧ ∀ index, holder.childRole (root.roleAt address) index = .other := by
  cases held with
  | block found => exact of_block found rfl rfl
  | staticBlock found => exact of_block found rfl rfl
  | tryBlock found => exact of_block found rfl rfl
  | @catchBlock _ param found => cases param <;> exact of_block found rfl rfl
  | @finallyBlock _ _ handler found => cases handler <;> exact of_block found rfl rfl
  | @switchCase _ test found =>
    refine ⟨_, test.toList.map .expr, found, ?_, by simp, fun index => rfl⟩
    rw [List.append_nil]
    rfl
  | namespaceBody found =>
    refine ⟨_, [], found, ?_, rfl, fun index => rfl⟩
    rw [List.append_nil]
    exact List.map_map

end Node

namespace Program
variable {p : Program} {stmts : List Stmt} {address : Address} {start : Nat}

theorem lint_of_functionBodyAt (held : (Node.program p).FunctionBodyAt stmts address) (setting : Setting) :
    p.lintChildren setting address 0 stmts.length = setting.findings (bodySightings stmts) ∧
      p.lintChildren setting address 0 stmts.length <:+: p.lint setting := by
  obtain ⟨found, role⟩ := held.holder
  have split : (Node.block (.mk stmts)).children = [] ++ stmts.map .stmt ++ [] := (List.append_nil _).symm
  have holds : (Node.block (.mk stmts)).holdsDirectives ((Node.program p).roleAt address) = true := by
    rw [role]
    rfl
  have due := lintChildren_eq setting found split
  have together := lintChildren_infix setting found split
  rw [List.length_map, List.length_nil] at due together
  rw [flatMap_sightings_of_leading (Node.childRole_of_list holds rfl)] at due
  exact ⟨due, together⟩

theorem lint_of_plainListAt (held : (Node.program p).PlainListAt stmts address start) (setting : Setting) :
    p.lintChildren setting address start stmts.length = setting.findings (plainSightings stmts) ∧
      p.lintChildren setting address start stmts.length <:+: p.lint setting := by
  obtain ⟨holder, before, found, split, rfl, other⟩ := held.holder
  have due := lintChildren_eq setting found split
  have together := lintChildren_infix setting found split
  rw [List.length_map] at due together
  rw [flatMap_sightings_of_other other] at due
  exact ⟨due, together⟩

end Program

/-! ### The leading strings -/

theorem Expr.isUnused_of_isString {e : Expr} (string : e.isString = true) (o : Options) : e.isUnused o = true := by
  fun_induction Expr.unparen e with
  | case1 inner ih => exact ih (inner.isString_paren ▸ string)
  | case2 e plain =>
    cases e with
    | string => rfl
    | paren inner => exact absurd rfl (plain inner)
    | _ => cases string

theorem Expr.sightings_of_isString {e : Expr} (string : e.isString = true) (role : Role) :
    (Node.expr e).sightings role = [] := by
  fun_induction Expr.unparen e with
  | case1 inner ih =>
    rw [Node.sightings_paren]
    exact ih (inner.isString_paren ▸ string)
  | case2 e plain =>
    cases e with
    | string =>
      rw [Node.sightings_eq]
      rfl
    | paren inner => exact absurd rfl (plain inner)
    | _ => cases string

/-- A string statement is acceptable just if it is a directive. -/
theorem Sighting.isValid_of_isString {e : Expr} (string : e.isString = true) (o : Options) (span : Span)
    (directive : Bool) : Sighting.isValid o ⟨span, e, directive⟩ = directive := by
  have chains : e.isExpectChain = false ∧ e.isShouldChain = false := by
    unfold Expr.isString at string
    unfold Expr.isExpectChain Expr.isShouldChain
    split at string
    · simp_all
    · cases string
  simp [Sighting.isValid, Expr.isAcceptable, Expr.isUnused_of_isString string, chains]

theorem Node.sightings_of_isString {e : Expr} (string : e.isString = true) (span : Span) (role : Role) :
    (Node.stmt (.expr span e)).sightings role = [⟨span, e, role = .leading⟩] := by
  rw [sightings_eq]
  simp [ownSighting?, children, Expr.sightings_of_isString string]

theorem Setting.findings_plainSightings {setting : Setting} (enabled : setting.severity ≠ .off)
    (stmts : List Stmt) :
    setting.findings (plainSightings stmts) =
      (leadingSpans stmts).map (Rule.diagnostic setting.severity) ++ setting.findings (bodySightings stmts) := by
  have on : setting.isEnabled = true := by simpa [← isEnabled_eq_false_iff] using enabled
  fun_induction leadingSpans stmts with
  | case1 span e rest string ih =>
    -- A leading string is reported where it does not lead, and holds no other statement.
    have like : (Stmt.expr span e).isDirectiveLike = true := string
    have plain : plainSightings (.expr span e :: rest) = [⟨span, e, false⟩] ++ plainSightings rest := by
      rw [plainSightings, List.flatMap_cons, Node.sightings_of_isString string]
      rfl
    have body : bodySightings (.expr span e :: rest) = [⟨span, e, true⟩] ++ bodySightings rest := by
      rw [bodySightings, List.takeWhile_cons_of_pos like, List.dropWhile_cons_of_pos like, List.flatMap_cons,
        Node.sightings_of_isString string, List.append_assoc]
      rfl
    rw [plain, body, findings_append, findings_append, findings_singleton, findings_singleton,
      Sighting.isValid_of_isString string, Sighting.isValid_of_isString string, ih, on]
    simp
  | case2 span e rest other =>
    -- From here on nothing leads in a body either.
    rw [bodySightings_of_head]
    · rfl
    · rintro s ⟨⟩
      simpa [Stmt.isDirectiveLike] using other
  | case3 stmts other =>
    rw [bodySightings_of_head]
    · rfl
    · intro s first
      obtain ⟨rest, rfl⟩ := List.head?_eq_some_iff.mp first
      cases s with
      | expr span e => exact (other span e rest rfl).elim
      | _ => rfl

/-- The diagnostics for a list of statements are those of a script of it if the list is a module or the body of a
    function, wherever in a program that is. In any other place there is one more for each string statement at
    the start of the list, and these come first. In the report on the program these diagnostics stand together. -/
theorem lint_of_placement (stmts : List Stmt) (setting : Setting) (enabled : setting.severity ≠ .off) :
    (Program.module (stmts.map .stmt)).lint setting = (Program.script stmts).lint setting ∧
    (∀ (p : Program) (address : Address), (Node.program p).FunctionBodyAt stmts address →
      p.lintChildren setting address 0 stmts.length = (Program.script stmts).lint setting ∧
      p.lintChildren setting address 0 stmts.length <:+: p.lint setting) ∧
    ∀ (p : Program) (address : Address) (start : Nat), (Node.program p).PlainListAt stmts address start →
      p.lintChildren setting address start stmts.length =
        (leadingSpans stmts).map (Rule.diagnostic setting.severity) ++ (Program.script stmts).lint setting ∧
      p.lintChildren setting address start stmts.length <:+: p.lint setting := by
  rw [Program.lint_script]
  refine ⟨Program.lint_module stmts setting, fun p address held => ?_, fun p address start held => ?_⟩
  · exact Program.lint_of_functionBodyAt held setting
  · rw [← Setting.findings_plainSightings enabled]
    exact Program.lint_of_plainListAt held setting

/-- A string and an identifier in a private method and in a static block of one class. -/
theorem lint_of_placement_in_class :
    ∃ (stmts : List Stmt) (p : Program),
      stmts = [.expr ⟨0, 12⟩ (.string "use strict"), .expr ⟨13, 15⟩ (.ident "a")] ∧
      p = .script [.classDecl (.mk []
        [.method (.privateName "m") (.mk [] [] (some (.mk stmts))), .staticBlock (.mk stmts)] none)] ∧
      p.lintChildren .standard [0, 1, 0, 0, 0, 0] 0 2 = [Rule.diagnostic .error ⟨13, 15⟩] ∧
      p.lintChildren .standard [0, 1, 0, 0, 0] 0 2 =
        [Rule.diagnostic .error ⟨0, 12⟩, Rule.diagnostic .error ⟨13, 15⟩] := by
  let stmts : List Stmt := [.expr ⟨0, 12⟩ (.string "use strict"), .expr ⟨13, 15⟩ (.ident "a")]
  have script : (Program.script stmts).lint .standard = [Rule.diagnostic .error ⟨13, 15⟩] := by decide +kernel
  obtain ⟨-, body, plain⟩ := lint_of_placement stmts .standard (by decide)
  rw [script] at body plain
  exact ⟨stmts, _, rfl, rfl, (body _ _ (.body rfl rfl rfl)).1, (plain _ _ _ (.staticBlock rfl)).1⟩

end UnusedExpr
