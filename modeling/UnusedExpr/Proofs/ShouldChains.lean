import UnusedExpr.Proofs.Chains

/-! # The grammar of `should` chains

From the outermost access of a statement the rule goes towards the root until it meets an access to `should`. The
grammar starts at that access, whatever its object is, and builds the chain outwards (`reachesShould_iff`).

Taken apart into a root and links, an expression is a chain just if the outermost link is an access and one of the
others is an access to `should`, or the root is `super.should` or `super[should]` (`isShouldChain_extend_iff`). Unlike
in an `expect` chain, the outermost access may be optional and any link may be the decisive one. -/

namespace UnusedExpr

/-- A key that names `should`. A string is none. -/
inductive ShouldKey : Key → Prop
  | name : ShouldKey (.name "should")
  | privateName : ShouldKey (.privateName "should")
  | computed {e : Expr} (named : (Expr.ident "should").Parenthesized e) : ShouldKey (.computed e)

/-- An expression whose accesses are `should` chains. -/
inductive ShouldChain : Expr → Prop
  | access (obj : Expr) {key : Key} (named : ShouldKey key) : ShouldChain (.member obj key)
  | optAccess (obj : Expr) {key : Key} (named : ShouldKey key) : ShouldChain (.optMember obj key)
  | superMember : ShouldChain (.superMember "should")
  | superComputed {key : Expr} (named : (Expr.ident "should").Parenthesized key) : ShouldChain (.superComputed key)
  | member {obj : Expr} (key : Key) (chain : ShouldChain obj) : ShouldChain (.member obj key)
  | optMember {obj : Expr} (key : Key) (chain : ShouldChain obj) : ShouldChain (.optMember obj key)
  | call {callee : Expr} (args : List Expr) (chain : ShouldChain callee) : ShouldChain (.call callee args)
  | optCall {callee : Expr} (args : List Expr) (chain : ShouldChain callee) : ShouldChain (.optCall callee args)
  | paren {inner : Expr} (chain : ShouldChain inner) : ShouldChain (.paren inner)

theorem Key.isNamed_should_iff {key : Key} : key.isNamed "should" = true ↔ ShouldKey key := by
  constructor
  · intro named
    cases key with
    | name n =>
      obtain rfl := beq_iff_eq.mp named
      exact .name
    | privateName n =>
      obtain rfl := beq_iff_eq.mp named
      exact .privateName
    | literal => cases named
    | computed e => exact .computed (Expr.isNamed_iff.mp named)
  · intro named
    cases named with
    | name | privateName => rfl
    | computed named => exact Expr.isNamed_iff.mpr named

namespace Expr
variable {e : Expr}

/-! ### From the outermost access to the root and back -/

theorem shouldChain_of_reachesShould {e : Expr} (reached : e.reachesShould = true) : ShouldChain e := by
  cases e with
  | paren inner => exact .paren (shouldChain_of_reachesShould reached)
  | member obj key =>
    rcases (Bool.or_eq_true _ _).mp reached with named | deeper
    · exact .access obj (Key.isNamed_should_iff.mp named)
    · exact .member key (shouldChain_of_reachesShould deeper)
  | optMember obj key =>
    rcases (Bool.or_eq_true _ _).mp reached with named | deeper
    · exact .optAccess obj (Key.isNamed_should_iff.mp named)
    · exact .optMember key (shouldChain_of_reachesShould deeper)
  | superMember name =>
    obtain rfl := beq_iff_eq.mp reached
    exact .superMember
  | superComputed key => exact .superComputed (isNamed_iff.mp reached)
  | call callee args => exact .call args (shouldChain_of_reachesShould reached)
  | optCall callee args => exact .optCall args (shouldChain_of_reachesShould reached)
  | _ => cases reached

theorem reachesShould_iff : e.reachesShould = true ↔ ShouldChain e := by
  constructor
  · exact shouldChain_of_reachesShould
  · intro chain
    induction chain with
    | access obj named | optAccess obj named => rw [reachesShould, Key.isNamed_should_iff.mpr named, Bool.true_or]
    | superMember => rfl
    | superComputed named => exact isNamed_iff.mpr named
    | member key chain ih | optMember key chain ih => rw [reachesShould, ih, Bool.or_true]
    | call args chain ih | optCall args chain ih | paren chain ih => exact ih

theorem isShouldChain_iff :
    e.isShouldChain = true ↔ ∃ obj key,
      ((Expr.member obj key).Parenthesized e ∨ (Expr.optMember obj key).Parenthesized e) ∧ ShouldChain obj := by
  have plain : ∀ obj key, (Expr.member obj key).Parenthesized e ↔ e.unparen = .member obj key :=
    fun _ _ => (unparen_eq_iff rfl).symm
  have optional : ∀ obj key, (Expr.optMember obj key).Parenthesized e ↔ e.unparen = .optMember obj key :=
    fun _ _ => (unparen_eq_iff rfl).symm
  simp only [plain, optional, ← reachesShould_iff]
  unfold isShouldChain
  split
  · rename_i obj key core
    simp [core]
  · rename_i obj key core
    simp [core]
  · simp_all

end Expr

/-! ### Links -/

namespace Link

def isAccess : Link → Bool
  | .member _ | .optMember _ => true
  | _ => false

/-- The link is an access to `should`. -/
def NamesShould : Link → Prop
  | .member key | .optMember key => ShouldKey key
  | _ => False

theorem exists_mem_withoutParens (links : List Link) :
    (∃ link ∈ withoutParens links, link.NamesShould) ↔ ∃ link ∈ links, link.NamesShould := by
  constructor
  · rintro ⟨link, member, named⟩
    exact ⟨link, (List.mem_filter.mp member).1, named⟩
  · rintro ⟨link, member, named⟩
    refine ⟨link, List.mem_filter.mpr ⟨member, ?_⟩, named⟩
    cases link with
    | paren => exact named.elim
    | _ => rfl

end Link

namespace Expr
variable {root : Expr}

/-- The expression is `super.should` or `super[should]`. -/
def IsSuperShould (e : Expr) : Prop :=
  e = .superMember "should" ∨ ∃ key, e = .superComputed key ∧ (Expr.ident "should").Parenthesized key

theorem reachesShould_root_iff (bare : root.isLinked = false) : root.reachesShould = true ↔ root.IsSuperShould := by
  rw [reachesShould_iff]
  constructor
  · intro chain
    cases chain with
    | superMember => exact Or.inl rfl
    | superComputed named => exact Or.inr ⟨_, rfl, named⟩
    | _ => cases bare
  · rintro (rfl | ⟨key, rfl, named⟩)
    · exact .superMember
    · exact .superComputed named

theorem reachesShould_around (inner : Expr) (outer : Link) :
    (outer.around inner).reachesShould = true ↔ inner.reachesShould = true ∨ outer.NamesShould := by
  cases outer with
  | member key | optMember key =>
    rw [Link.around, reachesShould, Bool.or_eq_true, Key.isNamed_should_iff, or_comm]
    rfl
  | paren | call args | optCall args => exact (or_iff_left id).symm

theorem reachesShould_extend_iff (root : Expr) (links : List Link) :
    (root.extend links).reachesShould = true ↔ root.reachesShould = true ∨ ∃ link ∈ links, link.NamesShould := by
  induction links using List.reverseRecOn with
  | nil => simp [extend]
  | append_singleton links outer ih =>
    rw [extend_append, reachesShould_around, ih, or_assoc]
    simp [or_and_right, exists_or]

theorem isShouldChain_around (inner : Expr) {outer : Link} (other : outer.isParen = false) :
    (outer.around inner).isShouldChain = (outer.isAccess && inner.reachesShould) := by
  cases outer with
  | paren => cases other
  | _ => rfl

theorem isShouldChain_extend_iff (bare : root.isLinked = false) (links : List Link) :
    (root.extend links).isShouldChain = true ↔
      ∃ inner outer, Link.withoutParens links = inner ++ [outer] ∧ outer.isAccess = true ∧
        (root.IsSuperShould ∨ ∃ link ∈ inner, link.NamesShould) := by
  induction links using List.reverseRecOn with
  | nil =>
    rw [extend, List.foldl_nil, isShouldChain, unparen_of_not_isLinked bare]
    split
    · cases bare
    · cases bare
    · simp [Link.withoutParens]
  | append_singleton links outer ih =>
    rw [extend_append]
    by_cases paren : outer.isParen = true
    · obtain rfl : outer = .paren := by cases outer <;> first | rfl | cases paren
      rw [Link.withoutParens_paren, Link.around, isShouldChain_paren, ih]
    · -- The last link is the outermost access, so only those before it can name `should`.
      have other : outer.isParen = false := by simpa using paren
      have below : (root.extend links).reachesShould = true ↔
          root.IsSuperShould ∨ ∃ link ∈ Link.withoutParens links, link.NamesShould := by
        rw [reachesShould_extend_iff, reachesShould_root_iff bare, Link.exists_mem_withoutParens]
      rw [Link.withoutParens_append other, isShouldChain_around _ other, Bool.and_eq_true, below]
      constructor
      · rintro ⟨access, named⟩
        exact ⟨_, outer, rfl, access, named⟩
      · rintro ⟨inner, last, split, access, named⟩
        obtain ⟨rfl, same⟩ := List.append_inj' split rfl
        obtain rfl := List.head_eq_of_cons_eq same
        exact ⟨access, named⟩

end Expr

/-- The `should` chains are, in any number of parentheses, the plain and the optional accesses to what the grammar
    generates. With an expression taken apart into a root and links, and parentheses left out, they are those whose
    outermost link is an access, where one of the other links is an access to `should` or the root is such an access to
    `super`. -/
theorem isShouldChain_iff_grammar (e : Expr) :
    (e.isShouldChain = true ↔ ∃ obj key,
      ((Expr.member obj key).Parenthesized e ∨ (Expr.optMember obj key).Parenthesized e) ∧ ShouldChain obj) ∧
    (∃ (root : Expr) (links : List Link), root.isLinked = false ∧ e = root.extend links) ∧
    ∀ (root : Expr) (links : List Link), root.isLinked = false → e = root.extend links →
      (e.isShouldChain = true ↔
        ∃ inner outer, Link.withoutParens links = inner ++ [outer] ∧ outer.isAccess = true ∧
          (root.IsSuperShould ∨ ∃ link ∈ inner, link.NamesShould)) := by
  refine ⟨Expr.isShouldChain_iff, e.exists_extend, ?_⟩
  rintro root links bare rfl
  exact Expr.isShouldChain_extend_iff bare links

/-- `(a?.[(should)])(b)?.ok` is a chain, and `should.a.should` is none. -/
theorem isShouldChain_by_links :
    Expr.isShouldChain (.optMember (.call (.paren (.optMember (.ident "a")
        (.computed (.paren (.ident "should"))))) [.ident "b"]) (.name "ok")) = true ∧
      Expr.isShouldChain (.member (.member (.ident "should") (.name "a")) (.name "should")) = false := by
  obtain ⟨-, -, chain⟩ := isShouldChain_iff_grammar (.optMember (.call (.paren (.optMember (.ident "a")
    (.computed (.paren (.ident "should"))))) [.ident "b"]) (.name "ok"))
  obtain ⟨-, -, none⟩ := isShouldChain_iff_grammar
    (.member (.member (.ident "should") (.name "a")) (.name "should"))
  have first := chain (.ident "a") [.optMember (.computed (.paren (.ident "should"))), .paren, .call [.ident "b"],
    .optMember (.name "ok")] rfl rfl
  have second := none (.ident "should") [.member (.name "a"), .member (.name "should")] rfl rfl
  constructor
  · exact first.mpr ⟨[.optMember (.computed (.paren (.ident "should"))), .call [.ident "b"]], _, rfl, rfl,
      Or.inr ⟨_, List.mem_cons_self, .computed (.paren .bare)⟩⟩
  · rw [Bool.eq_false_iff, Ne, second]
    rintro ⟨inner, outer, split, -, root | ⟨link, member, named⟩⟩
    · obtain is | ⟨key, is, -⟩ := root <;> cases is
    · obtain ⟨rfl, -⟩ : [Link.member (.name "a")] = inner ∧ _ := List.append_inj' split rfl
      obtain rfl := List.mem_singleton.mp member
      exact absurd (Key.isNamed_should_iff.mpr named) (by decide)

end UnusedExpr
