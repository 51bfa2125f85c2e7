import UnusedExpr.Proofs.Directives
import UnusedExpr.Proofs.Sightings

/-! # The statements that a lint reports

A diagnostic gives the span of a statement, which need not tell it from others. The violations of a program are
the reported statements themselves, in the order of the report (`lint_eq_violations`), so that one can ask which
diagnostics belong to a part of the program. A part is a run of siblings with all that lies under them. A walk
goes through it without a break (`occurrences_part_at`), so its diagnostics stand together in the report, and they
are due for what the siblings show in their roles. -/

namespace UnusedExpr

/-- The statements that a lint of a program reports. -/
def Program.violations (p : Program) (setting : Setting) : List Occurrence :=
  if setting.severity = .off then [] else p.occurrences.filter fun s => !s.isValid setting.options

theorem Program.lint_eq_findings_occurrences (p : Program) (setting : Setting) :
    p.lint setting = setting.findings (p.occurrences.map Occurrence.sighting) :=
  (Node.program p).diagnostics_eq_occurrences setting

theorem Program.lint_eq_violations (p : Program) (setting : Setting) :
    p.lint setting = (p.violations setting).map fun s => Rule.diagnostic setting.severity s.span := by
  rw [lint_eq_findings_occurrences, Setting.findings_map_sighting, violations]
  split <;> rfl

theorem Program.mem_violations_iff {p : Program} {setting : Setting} {s : Occurrence} :
    s ∈ p.violations setting ↔
      setting.severity ≠ .off ∧ s ∈ p.occurrences ∧ s.isValid setting.options = false := by
  unfold violations
  split <;> simp_all

theorem Setting.findings_infix {setting : Setting} {part seen : List Sighting} (inside : part <:+: seen) :
    setting.findings part <:+: setting.findings seen := by
  obtain ⟨earlier, later, rfl⟩ := inside
  rw [findings_append, findings_append]
  exact List.infix_append _ _ _

/-- Whether a place is at or under one of the `count` children from `start` on of the node at `address`. -/
def Address.isAmong (address : Address) (start count : Nat) (place : Address) : Bool :=
  (List.range' start count).any fun index => (index :: address).isSuffixOf place

/-- The diagnostics for the `count` children from `start` on of the node at `address`, and for what is nested
    in them. -/
def Program.lintChildren (p : Program) (setting : Setting) (address : Address) (start count : Nat) :
    List Diagnostic :=
  ((p.violations setting).filter fun s => address.isAmong start count s.address).map fun s =>
    Rule.diagnostic setting.severity s.span

theorem Program.lintChildren_eq_findings (p : Program) (setting : Setting) (address : Address)
    (start count : Nat) :
    p.lintChildren setting address start count =
      setting.findings ((p.occurrences.filter fun s => address.isAmong start count s.address).map
        Occurrence.sighting) := by
  rw [Setting.findings_map_sighting, lintChildren, violations]
  split
  · rfl
  · rw [List.filter_filter, List.filter_filter]
    simp only [Bool.and_comm]

/-! ### Places among siblings -/

namespace Address
variable {address place : Address} {start count index : Nat}

theorem isAmong_iff :
    address.isAmong start count place = true ↔
      ∃ index, (start ≤ index ∧ index < start + count) ∧ index :: address <:+ place := by
  simp [isAmong]

theorem isAmong_parent (among : Address.isAmong (index :: address) start count place = true) :
    address.isAmong index 1 place = true := by
  obtain ⟨lower, -, below⟩ := isAmong_iff.mp among
  exact isAmong_iff.mpr ⟨index, by omega, (List.suffix_cons lower (index :: address)).trans below⟩

theorem index_unique {i j : Nat} (left : i :: address <:+ place) (right : j :: address <:+ place) : i = j := by
  have same := List.suffix_of_suffix_length_le left right (by simp)
  exact (List.cons.inj (List.IsSuffix.eq_of_length same (by simp))).1

theorem isAmong_of_below (below : index :: address <:+ place) :
    address.isAmong start count place = decide (start ≤ index ∧ index < start + count) := by
  rw [Bool.eq_iff_iff, isAmong_iff, decide_eq_true_iff]
  constructor
  · rintro ⟨other, range, under⟩
    exact index_unique under below ▸ range
  · intro range
    exact ⟨index, range, below⟩

theorem isAmong_self : address.isAmong start count address = false := by
  rw [Bool.eq_false_iff, Ne, isAmong_iff]
  rintro ⟨index, -, longer⟩
  have lengths := longer.length_le
  rw [List.length_cons] at lengths
  omega

end Address

/-! ### The statements of a part -/

namespace Node
variable {root node : Node} {before part after : List Node} {address : Address} {scopes : List Scope}

/-- The expression statements of some children of the node at `address`, of which the first has the index `start`. -/
def partOccurrences (scopes : List Scope) (address : Address) (start : Nat) (part : List Node) : List Occurrence :=
  (part.zipIdx start).flatMap fun x => x.1.occurrences scopes (x.2 :: address)

theorem occurrences_eq_part (node : Node) (scopes : List Scope) (address : Address) :
    node.occurrences scopes address = (node.ownOccurrence? scopes address).toList ++
      partOccurrences (node.innerScopes scopes address) address 0 node.children := by
  rw [occurrences_eq, placedChildren, List.flatMap_map]
  rfl

theorem partOccurrences_append (start : Nat) (part later : List Node) :
    partOccurrences scopes address start (part ++ later) =
      partOccurrences scopes address start part ++ partOccurrences scopes address (start + part.length) later := by
  rw [partOccurrences, List.zipIdx_append, List.flatMap_append]
  rfl

theorem partOccurrences_singleton (index : Nat) (child : Node) :
    partOccurrences scopes address index [child] = child.occurrences scopes (index :: address) := by
  rw [partOccurrences, List.zipIdx_singleton, List.flatMap_singleton]

theorem below_of_mem_part {start : Nat} {s : Occurrence} (member : s ∈ partOccurrences scopes address start part) :
    ∃ index, (start ≤ index ∧ index < start + part.length) ∧ index :: address <:+ s.address := by
  obtain ⟨x, child, deeper⟩ := List.mem_flatMap.mp member
  have lower := List.le_snd_of_mem_zipIdx child
  have upper := List.snd_lt_of_mem_zipIdx child
  exact ⟨x.2, by omega, suffix_address_of_mem deeper⟩

theorem filter_part (start : Nat) (part : List Node) :
    (partOccurrences scopes address start part).filter (fun s => address.isAmong start part.length s.address) =
      partOccurrences scopes address start part := by
  rw [List.filter_eq_self]
  intro s member
  exact Address.isAmong_iff.mpr (below_of_mem_part member)

theorem filter_part_of_apart {start first count : Nat} (apart : start + part.length ≤ first ∨ first + count ≤ start) :
    (partOccurrences scopes address start part).filter (fun s => address.isAmong first count s.address) = [] := by
  rw [List.filter_eq_nil_iff]
  intro s member
  obtain ⟨index, range, below⟩ := below_of_mem_part member
  rw [Address.isAmong_of_below below, decide_eq_true_iff]
  omega

theorem filter_ownOccurrence? (node : Node) (start count : Nat) :
    (node.ownOccurrence? scopes address).toList.filter (fun s => address.isAmong start count s.address) = [] := by
  rw [List.filter_eq_nil_iff]
  intro s own
  rw [(mem_ownOccurrence?.mp own).2.1, Address.isAmong_self]
  simp

/-- A walk of a node goes through a run of its children without a break. -/
theorem occurrences_part (scopes : List Scope) (address : Address)
    (split : node.children = before ++ part ++ after) :
    (node.occurrences scopes address).filter (fun s => address.isAmong before.length part.length s.address) =
        partOccurrences (node.innerScopes scopes address) address before.length part ∧
      partOccurrences (node.innerScopes scopes address) address before.length part <:+:
        node.occurrences scopes address := by
  have whole := node.occurrences_eq_part scopes address
  rw [split, partOccurrences_append, partOccurrences_append, List.length_append, Nat.zero_add] at whole
  constructor
  · rw [whole, List.filter_append, List.filter_append, List.filter_append, filter_ownOccurrence?,
      filter_part_of_apart (Or.inl (by omega)), filter_part, filter_part_of_apart (Or.inr (by omega)), List.nil_append,
      List.nil_append, List.append_nil]
  · rw [whole, ← List.append_assoc, ← List.append_assoc]
    exact List.infix_append _ _ _

/-- So does a walk of a tree through a run of siblings anywhere in it. -/
theorem occurrences_part_at (found : root.nodeAt? address = some node)
    (split : node.children = before ++ part ++ after) :
    (root.occurrences [] []).filter (fun s => address.isAmong before.length part.length s.address) =
        partOccurrences (node.innerScopes (root.scopesAt address) address) address before.length part ∧
      partOccurrences (node.innerScopes (root.scopesAt address) address) address before.length part <:+:
        root.occurrences [] [] := by
  induction address generalizing node before part after with
  | nil =>
    obtain rfl := Option.some.inj found
    exact occurrences_part [] [] split
  | cons index address ih =>
    obtain ⟨parent, above, below⟩ := nodeAt?_cons_eq_some.mp found
    obtain ⟨bound, here⟩ := List.getElem?_eq_some_iff.mp below
    have around : parent.children = parent.children.take index ++ [node] ++ parent.children.drop (index + 1) := by
      rw [List.append_assoc, ← here, List.singleton_append, List.getElem_cons_drop, List.take_append_drop]
    have place : (parent.children.take index).length = index := by
      rw [List.length_take, Nat.min_eq_left (Nat.le_of_lt bound)]
    -- The node is a part of the whole tree by itself, and the siblings are a part of the node.
    obtain ⟨outer, within⟩ := ih above around
    rw [place, ← scopesAt_cons index above, partOccurrences_singleton] at outer within
    obtain ⟨inner, inside⟩ := occurrences_part (root.scopesAt (index :: address)) (index :: address) split
    refine ⟨?_, inside.trans within⟩
    rw [← inner, ← outer, List.filter_filter]
    refine List.filter_congr fun s _ => ?_
    rw [Eq.comm, Bool.and_eq_left_iff_imp]
    exact Address.isAmong_parent

theorem getElem?_of_mem_zipIdx {x : Node × Nat} (split : node.children = before ++ part ++ after)
    (member : x ∈ part.zipIdx before.length) : node.children[x.2]? = some x.1 := by
  obtain ⟨lower, here⟩ := List.mem_zipIdx_iff_le_and_getElem?_sub.mp member
  have upper := List.snd_lt_of_mem_zipIdx member
  rw [split, List.append_assoc, List.getElem?_append_right lower, List.getElem?_append_left (by omega), here]

end Node

namespace Program
variable {p : Program} {address : Address} {node : Node} {before part after : List Node}

/-- What is reported for a part is due for what its nodes show in their roles. -/
theorem lintChildren_eq (setting : Setting) (found : (Node.program p).nodeAt? address = some node)
    (split : node.children = before ++ part ++ after) :
    p.lintChildren setting address before.length part.length =
      setting.findings ((part.zipIdx before.length).flatMap fun x =>
        x.1.sightings (node.childRole ((Node.program p).roleAt address) x.2)) := by
  have start : (Node.program p).Fits .other [] [] := trivial
  rw [lintChildren_eq_findings, occurrences, (Node.occurrences_part_at found split).1, Node.partOccurrences,
    List.map_flatMap]
  congr 1
  refine List.flatMap_congr fun x member => ?_
  exact Node.map_sighting_occurrences
    (Node.fits_child (Node.fits_roleAt start found) (Node.getElem?_of_mem_zipIdx split member))

theorem lintChildren_infix (setting : Setting) (found : (Node.program p).nodeAt? address = some node)
    (split : node.children = before ++ part ++ after) :
    p.lintChildren setting address before.length part.length <:+: p.lint setting := by
  obtain ⟨only, inside⟩ := Node.occurrences_part_at found split
  rw [lintChildren_eq_findings, lint_eq_findings_occurrences, occurrences, only]
  exact Setting.findings_infix (inside.map Occurrence.sighting)

end Program

end UnusedExpr
