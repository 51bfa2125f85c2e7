import UnusedExpr.Lint

/-! # Where the expression statements of a tree stand

An address leads from the root of a tree to one of its nodes. The occurrences of a tree are exactly the
nodes at some address that are expression statements, each with the scopes that the nodes on the way to it
open. They come in the order of a walk: a node before what lies under it, and an earlier child before a
later one. So none is missing, none comes twice, and none has the scopes of another. -/

namespace UnusedExpr

/-- A walk meets the first address before the second: the steps from the root compare as words do. -/
def Address.Precedes (a b : Address) : Prop :=
  a.reverse < b.reverse

namespace Node

/-- The node at an address of a tree. -/
def nodeAt? (root : Node) : Address → Option Node
  | [] => some root
  | index :: address => (root.nodeAt? address).bind fun parent => parent.children[index]?

/-- The scopes that the nodes on the way to an address open, from the innermost outwards. -/
def scopesAt (root : Node) : Address → List Scope
  | [] => []
  | _ :: address => ((root.nodeAt? address).bind fun parent => parent.scope? address).toList ++ root.scopesAt address

end Node

/-- An expression statement of the tree under `root`, with the scopes around it. -/
structure Occurrence.StandsIn (s : Occurrence) (root : Node) : Prop where
  node : root.nodeAt? s.address = some (.stmt (.expr s.span s.expr))
  scopes : s.scopes = root.scopesAt s.address

namespace Node
variable {root node child parent : Node} {address place : Address} {scopes : List Scope} {index : Nat}

/-! ### Addresses -/

theorem nodeAt?_cons_eq_some :
    root.nodeAt? (index :: address) = some child ↔
      ∃ parent, root.nodeAt? address = some parent ∧ parent.children[index]? = some child := by
  rw [nodeAt?, Option.bind_eq_some_iff]

theorem scopesAt_cons (index : Nat) (found : root.nodeAt? address = some parent) :
    root.scopesAt (index :: address) = parent.innerScopes (root.scopesAt address) address := by
  rw [scopesAt, found, innerScopes, Option.bind_some]

/-- The way to a node leads through nodes only. -/
theorem nodeAt?_of_suffix (upper : address <:+ place) (found : root.nodeAt? place = some node) :
    ∃ ancestor, root.nodeAt? address = some ancestor := by
  induction place generalizing node with
  | nil =>
    obtain rfl := List.suffix_nil.mp upper
    exact ⟨node, found⟩
  | cons index rest ih =>
    rcases List.suffix_cons_iff.mp upper with rfl | upper
    · exact ⟨node, found⟩
    · obtain ⟨parent, reached, -⟩ := nodeAt?_cons_eq_some.mp found
      exact ih upper reached

/-- An address at or under another is that one, or lies at or under one of its next steps. -/
theorem suffix_iff_eq_or_cons : address <:+ place ↔ place = address ∨ ∃ index, index :: address <:+ place := by
  constructor
  · rintro ⟨steps, rfl⟩
    rcases List.eq_nil_or_concat steps with rfl | ⟨last, index, rfl⟩
    · exact Or.inl rfl
    · exact Or.inr ⟨index, last, by simp⟩
  · rintro (rfl | ⟨index, lower⟩)
    · exact List.suffix_refl _
    · exact (List.suffix_cons index address).trans lower

theorem mem_placedChildren {placed : Node × Address} :
    placed ∈ node.placedChildren address ↔
      ∃ index, node.children[index]? = some placed.1 ∧ placed.2 = index :: address := by
  rw [placedChildren, List.mem_map]
  constructor
  · rintro ⟨⟨child, index⟩, member, rfl⟩
    exact ⟨index, List.mem_zipIdx_iff_getElem?.mp member, rfl⟩
  · rintro ⟨index, found, here⟩
    exact ⟨(placed.1, index), List.mem_zipIdx_iff_getElem?.mpr found, Prod.ext rfl here.symm⟩

/-! ### Every occurrence and nothing else -/

theorem mem_ownOccurrence? {s : Occurrence} :
    s ∈ (node.ownOccurrence? scopes address).toList ↔
      node = .stmt (.expr s.span s.expr) ∧ s.address = address ∧ s.scopes = scopes := by
  rw [Option.mem_toList]
  constructor
  · intro own
    unfold ownOccurrence? at own
    split at own
    · cases own
      exact ⟨rfl, rfl, rfl⟩
    · cases own
  · rintro ⟨rfl, rfl, rfl⟩
    rfl

theorem mem_occurrences {s : Occurrence} :
    s ∈ node.occurrences scopes address ↔
      (node = .stmt (.expr s.span s.expr) ∧ s.address = address ∧ s.scopes = scopes) ∨
      ∃ (index : Nat) (child : Node), node.children[index]? = some child ∧
        s ∈ child.occurrences (node.innerScopes scopes address) (index :: address) := by
  rw [occurrences_eq, List.mem_append, mem_ownOccurrence?, List.mem_flatMap]
  constructor
  · rintro (own | ⟨placed, member, deeper⟩)
    · exact Or.inl own
    · obtain ⟨index, found, here⟩ := mem_placedChildren.mp member
      exact Or.inr ⟨index, placed.1, found, here ▸ deeper⟩
  · rintro (own | ⟨index, child, found, deeper⟩)
    · exact Or.inl own
    · exact Or.inr ⟨(child, index :: address), mem_placedChildren.mpr ⟨index, found, rfl⟩, deeper⟩

/-- The occurrences of the subtree at an address are those of the tree at or under that address. -/
theorem mem_occurrences_iff_standsIn {s : Occurrence} (found : root.nodeAt? address = some node) :
    s ∈ node.occurrences (root.scopesAt address) address ↔ address <:+ s.address ∧ s.StandsIn root := by
  induction node using Node.induction generalizing address with | step node ih
  rw [mem_occurrences, suffix_iff_eq_or_cons]
  constructor
  · rintro (⟨rfl, here, around⟩ | ⟨index, child, below, deeper⟩)
    · exact ⟨Or.inl here, here ▸ found, here ▸ around⟩
    · rw [← scopesAt_cons index found] at deeper
      have reached := nodeAt?_cons_eq_some.mpr ⟨node, found, below⟩
      obtain ⟨lower, stands⟩ := (ih child (List.mem_of_getElem? below) reached).mp deeper
      exact ⟨Or.inr ⟨index, lower⟩, stands⟩
  · rintro ⟨here | ⟨index, lower⟩, stands⟩
    · have same := found.symm.trans (here ▸ stands.node)
      exact Or.inl ⟨Option.some.inj same, here, here ▸ stands.scopes⟩
    · -- The way to the statement passes through a child, whose occurrences contain it.
      obtain ⟨child, reached⟩ := nodeAt?_of_suffix lower stands.node
      obtain ⟨parent, found', below⟩ := nodeAt?_cons_eq_some.mp reached
      obtain rfl := Option.some.inj (found.symm.trans found')
      refine Or.inr ⟨index, child, below, ?_⟩
      rw [← scopesAt_cons index found]
      exact (ih child (List.mem_of_getElem? below) reached).mpr ⟨lower, stands⟩

/-! ### The order of a walk -/

theorem suffix_address_of_mem {s : Occurrence} (member : s ∈ node.occurrences scopes address) :
    address <:+ s.address := by
  induction node using Node.induction generalizing scopes address with | step node ih
  rcases mem_occurrences.mp member with ⟨-, here, -⟩ | ⟨index, child, below, deeper⟩
  · exact here ▸ List.suffix_refl _
  · exact (List.suffix_cons index address).trans (ih child (List.mem_of_getElem? below) deeper)

theorem precedes_of_below (lower : index :: address <:+ place) : address.Precedes place := by
  obtain ⟨steps, rfl⟩ := lower
  have longer : (steps ++ index :: address).reverse = address.reverse ++ index :: steps.reverse := by simp
  have below : address.reverse ++ [] < address.reverse ++ index :: steps.reverse :=
    List.append_left_lt (List.nil_lt_cons index steps.reverse)
  rw [Address.Precedes, longer]
  rwa [List.append_nil] at below

theorem precedes_of_lt {i j : Nat} {a b : Address} (before : i < j) (left : i :: address <:+ a)
    (right : j :: address <:+ b) : a.Precedes b := by
  obtain ⟨steps, rfl⟩ := left
  obtain ⟨steps', rfl⟩ := right
  have split : ∀ (k : Nat) (l : Address), (l ++ k :: address).reverse = address.reverse ++ k :: l.reverse := by simp
  rw [Address.Precedes, split, split]
  exact List.append_left_lt (List.cons_lt_cons_iff.mpr (Or.inl before))

theorem pairwise_placedChildren (node : Node) (address : Address) :
    (node.placedChildren address).Pairwise fun x y =>
      ∃ i j, i < j ∧ x.2 = i :: address ∧ y.2 = j :: address := by
  rw [placedChildren, List.pairwise_map, List.pairwise_iff_getElem]
  intro i j hi hj before
  exact ⟨i, j, before, by simp, by simp⟩

theorem pairwise_occurrences (node : Node) (scopes : List Scope) (address : Address) :
    (node.occurrences scopes address).Pairwise fun s t => s.address.Precedes t.address := by
  induction node using Node.induction generalizing scopes address with | step node ih
  rw [occurrences_eq, List.pairwise_append, List.pairwise_flatMap]
  refine ⟨?_, ⟨fun placed member => ?_, ?_⟩, fun s own t deeper => ?_⟩
  · cases node.ownOccurrence? scopes address <;> simp
  · exact ih placed.1 (mem_children_of_mem_placedChildren member) _ _
  · refine (node.pairwise_placedChildren address).imp fun {x y} apart s left t right => ?_
    obtain ⟨i, j, before, hx, hy⟩ := apart
    rw [hx] at left
    rw [hy] at right
    exact precedes_of_lt before (suffix_address_of_mem left) (suffix_address_of_mem right)
  · -- The statement itself stands at the address, and what is nested in it below.
    obtain ⟨-, here, -⟩ := mem_ownOccurrence?.mp own
    obtain ⟨placed, member, deeper⟩ := List.mem_flatMap.mp deeper
    obtain ⟨index, -, place⟩ := mem_placedChildren.mp member
    rw [place] at deeper
    exact here ▸ precedes_of_below (suffix_address_of_mem deeper)

end Node

/-! ### Programs -/

theorem Program.mem_occurrences_iff {p : Program} {s : Occurrence} :
    s ∈ p.occurrences ↔ s.StandsIn (.program p) := by
  have root : (Node.program p).nodeAt? [] = some (.program p) := rfl
  exact (Node.mem_occurrences_iff_standsIn root).trans (and_iff_right List.nil_suffix)

theorem Program.pairwise_occurrences (p : Program) :
    p.occurrences.Pairwise fun s t => s.address.Precedes t.address :=
  Node.pairwise_occurrences _ _ _

end UnusedExpr
