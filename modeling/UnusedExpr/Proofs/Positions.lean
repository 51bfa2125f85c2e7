import Mathlib.Algebra.GroupWithZero.Nat
import Mathlib.Data.List.Forall2
import Mathlib.Data.List.Induction
import UnusedExpr.Source

/-! # Positions of messages

Between two characters of a text the walk along it stands where the table of line starts says: in the last line that
has started, after the UTF-16 units since then (`position_eq_lookup`). Each character moves the position on, to a later
line or to a later column of the same one (`Position.lt_next`), so different boundaries have different positions, in
the same order. Hence a message about a stretch of text ends after it starts. -/

namespace UnusedExpr

/-! ### The order of positions -/

/-- Positions are in order of their lines, and in a line in order of their columns. -/
instance : LT Position where
  lt p q := p.line < q.line ∨ p.line = q.line ∧ p.column < q.column

namespace Position
variable {p q r : Position}

theorem lt_iff : p < q ↔ p.line < q.line ∨ p.line = q.line ∧ p.column < q.column := Iff.rfl

instance : Decidable (p < q) :=
  inferInstanceAs (Decidable (p.line < q.line ∨ p.line = q.line ∧ p.column < q.column))

theorem lt_irrefl (p : Position) : ¬p < p := by
  rw [lt_iff]
  omega

theorem lt_trans (first : p < q) (second : q < r) : p < r := by
  rw [lt_iff] at *
  omega

end Position

theorem Source.units_pos (c : Char) : 0 < units c := by
  unfold units
  split <;> omega

/-- Each character moves the position on. -/
theorem Position.lt_next (p : Position) (c : Char) (rest : List Char) : p < p.next c rest := by
  rw [next, lt_iff]
  split
  · exact Or.inl (Nat.lt_succ_self p.line)
  · exact Or.inr ⟨rfl, Nat.lt_add_of_pos_right (Source.units_pos c)⟩

/-! ### Between two characters -/

namespace Source

/-- How many bytes some characters take. -/
def bytes (chars : List Char) : Nat :=
  (chars.map Char.utf8Size).sum

/-- An offset that counts from one and lies between two characters, or at one of the ends of the text. -/
def IsBoundary (content : List Char) (offset : Nat) : Prop :=
  ∃ before after, content = before ++ after ∧ offset = bytes before + 1

@[simp] theorem bytes_nil : bytes [] = 0 := rfl

@[simp] theorem bytes_cons (c : Char) (chars : List Char) : bytes (c :: chars) = c.utf8Size + bytes chars := rfl

@[simp] theorem bytes_append (chars more : List Char) : bytes (chars ++ more) = bytes chars + bytes more := by
  rw [bytes, List.map_append, List.sum_append]
  rfl

theorem position_succ (content : List Char) (offset : Nat) :
    position content (offset + 1) = Position.ofOffset content offset := rfl

end Source

namespace Position
open Source

@[simp] theorem advance_zero (p : Position) (content : List Char) : p.advance content 0 = p := by
  cases content with
  | nil => rfl
  | cons c rest => rw [advance, if_pos c.utf8Size_pos]

theorem advance_cons (p : Position) (c : Char) (rest : List Char) (offset : Nat) :
    p.advance (c :: rest) (c.utf8Size + offset) = (p.next c rest).advance rest offset := by
  rw [advance, if_neg (by omega), Nat.add_sub_cancel_left]

/-- Going on from a boundary is going on from its position. -/
theorem advance_append (p : Position) (before after : List Char) (offset : Nat) :
    p.advance (before ++ after) (bytes before + offset) =
      (p.advance (before ++ after) (bytes before)).advance after offset := by
  induction before generalizing p with
  | nil => simp
  | cons c before ih =>
    have once := advance_cons p c (before ++ after) (bytes before)
    rw [List.cons_append, bytes_cons, once, Nat.add_assoc, advance_cons]
    exact ih _

theorem ofOffset_snoc (before : List Char) (c : Char) (after : List Char) :
    ofOffset (before ++ [c] ++ after) (bytes (before ++ [c])) =
      (ofOffset (before ++ c :: after) (bytes before)).next c after := by
  have once := advance_cons (ofOffset (before ++ c :: after) (bytes before)) c after 0
  rw [advance_zero, Nat.add_zero] at once
  rw [List.append_assoc, List.singleton_append, bytes_append, bytes_cons, bytes_nil, Nat.add_zero, ← once]
  exact advance_append start before (c :: after) c.utf8Size

theorem lt_advance (p : Position) {chars : List Char} (nonempty : chars ≠ []) (after : List Char) :
    p < p.advance (chars ++ after) (bytes chars) := by
  induction chars generalizing p with
  | nil => exact absurd rfl nonempty
  | cons c rest ih =>
    have first := p.lt_next c (rest ++ after)
    rw [List.cons_append, bytes_cons, advance_cons]
    by_cases last : rest = []
    · simpa [last] using first
    · exact lt_trans first (ih _ last)

theorem one_le_next {p : Position} (line : 1 ≤ p.line) (column : 1 ≤ p.column) (c : Char) (rest : List Char) :
    1 ≤ (p.next c rest).line ∧ 1 ≤ (p.next c rest).column := by
  unfold next
  split
  · exact ⟨Nat.le_add_left 1 p.line, Nat.le_refl 1⟩
  · exact ⟨line, Nat.le_trans column (Nat.le_add_right _ _)⟩

theorem one_le_advance {p : Position} (line : 1 ≤ p.line) (column : 1 ≤ p.column) (content : List Char)
    (offset : Nat) : 1 ≤ (p.advance content offset).line ∧ 1 ≤ (p.advance content offset).column := by
  induction content generalizing p offset with
  | nil => exact ⟨line, column⟩
  | cons c rest ih =>
    rw [advance]
    split
    · exact ⟨line, column⟩
    · obtain ⟨line, column⟩ := one_le_next line column c rest
      exact ih line column _

end Position

namespace Source
variable {content : List Char} {p q : Nat}

theorem exists_between {first second rest rest' : List Char} (same : first ++ rest = second ++ rest')
    (less : bytes first < bytes second) : ∃ between, between ≠ [] ∧ second = first ++ between := by
  rcases List.append_eq_append_iff.mp same with ⟨between, rfl, -⟩ | ⟨between, rfl, -⟩
  · refine ⟨between, ?_, rfl⟩
    rintro rfl
    simp at less
  · rw [bytes_append] at less
    omega

theorem position_lt_of_lt (lower : IsBoundary content p) (upper : IsBoundary content q) (less : p < q) :
    position content p < position content q := by
  obtain ⟨first, rest, rfl, rfl⟩ := lower
  obtain ⟨second, rest', same, rfl⟩ := upper
  obtain ⟨between, nonempty, rfl⟩ := exists_between same (by omega)
  rw [List.append_assoc, List.append_cancel_left_eq] at same
  subst same
  rw [position_succ, position_succ, bytes_append]
  unfold Position.ofOffset
  rw [Position.advance_append]
  exact Position.lt_advance _ nonempty rest'

theorem position_injective (one : IsBoundary content p) (other : IsBoundary content q)
    (same : position content p = position content q) : p = q := by
  rcases Nat.lt_trichotomy p q with less | equal | more
  · have ordered := position_lt_of_lt one other less
    rw [same] at ordered
    exact absurd ordered (Position.lt_irrefl _)
  · exact equal
  · have ordered := position_lt_of_lt other one more
    rw [same] at ordered
    exact absurd ordered (Position.lt_irrefl _)

/-! ### The table of line starts -/

/-- A line starts between two parts of a text: at the very start, or after a break if more text follows. A carriage
    return right before a line feed is no break of its own. -/
def StartsLine (before after : List Char) : Prop :=
  before = [] ∨
    after ≠ [] ∧ (before.getLast? = some '\n' ∨ before.getLast? = some '\r' ∧ after.head? ≠ some '\n')

instance (before after : List Char) : Decidable (StartsLine before after) :=
  inferInstanceAs (Decidable (_ ∨ _))

/-- Where the lines start, as numbers of characters, up to the end of `before` in the text `before ++ after`. -/
def lineStarts (before after : List Char) : List Nat :=
  (List.range (before.length + 1)).filter fun i => StartsLine (before.take i) (before.drop i ++ after)

/-- The line that has started last, and the UTF-16 units since then. -/
def lookup (before after : List Char) : Position where
  line := (lineStarts before after).length
  column := ((before.drop ((lineStarts before after).getLastD 0)).map units).sum + 1

theorem startsLine_snoc_iff (before : List Char) (c : Char) (after : List Char) :
    StartsLine (before ++ [c]) after ↔ endsLine c after = true := by
  simp [StartsLine, endsLine]

theorem lineStarts_snoc (before : List Char) (c : Char) (after : List Char) :
    lineStarts (before ++ [c]) after =
      lineStarts before (c :: after) ++ if endsLine c after = true then [before.length + 1] else [] := by
  have earlier : ((List.range (before.length + 1)).filter fun i =>
      StartsLine ((before ++ [c]).take i) ((before ++ [c]).drop i ++ after)) = lineStarts before (c :: after) := by
    apply List.filter_congr
    intro i member
    have bound : i ≤ before.length := Nat.le_of_lt_succ (List.mem_range.mp member)
    rw [List.take_append_of_le_length bound, List.drop_append_of_le_length bound, List.append_assoc,
      List.singleton_append]
  have whole : (before ++ [c]).take (before.length + 1) = before ++ [c] := List.take_of_length_le (by simp)
  rw [lineStarts, List.length_append, List.length_singleton, List.range_succ, List.filter_append, earlier]
  simp [List.filter_cons, whole, startsLine_snoc_iff]

theorem getLastD_lineStarts_le (before after : List Char) : (lineStarts before after).getLastD 0 ≤ before.length := by
  have bound : ∀ i ∈ lineStarts before after, i ≤ before.length := by
    intro i member
    exact Nat.le_of_lt_succ (List.mem_range.mp (List.mem_filter.mp member).1)
  rw [List.getLastD_eq_getLast?]
  cases last : (lineStarts before after).getLast? with
  | none => exact Nat.zero_le _
  | some i => exact bound i (List.mem_of_getLast? last)

/-- A character that ends a line starts the next one, and any other moves on in its line. -/
theorem lookup_snoc (before : List Char) (c : Char) (after : List Char) :
    lookup (before ++ [c]) after = (lookup before (c :: after)).next c after := by
  rw [Position.next]
  split
  case isTrue ends =>
    have starts : lineStarts (before ++ [c]) after = lineStarts before (c :: after) ++ [before.length + 1] := by
      rw [lineStarts_snoc, if_pos ends]
    simp [lookup, starts]
  case isFalse stays =>
    have starts : lineStarts (before ++ [c]) after = lineStarts before (c :: after) := by
      rw [lineStarts_snoc, if_neg stays, List.append_nil]
    have inside := getLastD_lineStarts_le before (c :: after)
    simp only [lookup, starts, List.drop_append_of_le_length inside, List.map_append, List.map_singleton,
      List.sum_append, List.sum_singleton]
    rw [Nat.add_right_comm]

theorem position_eq_lookup (before after : List Char) :
    position (before ++ after) (bytes before + 1) = lookup before after := by
  rw [position_succ]
  -- Characters are taken off at the end, since the last one may have ended a line.
  induction before using List.reverseRecOn generalizing after with
  | nil =>
    rw [List.nil_append, bytes_nil, Position.ofOffset, Position.advance_zero]
    rfl
  | append_singleton front c ih => rw [Position.ofOffset_snoc, ih, lookup_snoc]

end Source

/-! ### Messages -/

open Source

/-- A message that says what a diagnostic says, with the positions of its span. -/
structure Message.Locates (m : Message) (content : List Char) (d : Diagnostic) : Prop where
  ruleId : m.ruleId = d.ruleId
  messageId : m.messageId = d.messageId
  message : m.message = d.message
  severity : m.severity = d.severity
  start : m.start = position content d.span.lo
  stop : m.stop = position content d.span.hi

theorem Diagnostic.locates_locate (content : List Char) (d : Diagnostic) : (d.locate content).Locates content d :=
  ⟨rfl, rfl, rfl, rfl, rfl, rfl⟩

theorem Message.Locates.start_lt_stop {content : List Char} {d : Diagnostic} {m : Message} (h : m.Locates content d)
    (lower : IsBoundary content d.span.lo) (upper : IsBoundary content d.span.hi) (less : d.span.lo < d.span.hi) :
    m.start < m.stop := by
  rw [h.start, h.stop]
  exact position_lt_of_lt lower upper less

theorem Source.exists_lint_eq_error_iff {file source : String} {parsed : Parsed} {setting : Setting} :
    (∃ error, Source.lint file source parsed setting = .error error) ↔
      (∃ cause, parsed = .failed cause) ∨ ∃ errors program, parsed = .program errors program ∧ errors ≠ [] := by
  rcases parsed with cause | ⟨_ | ⟨cause, errors⟩, program⟩ <;> simp [Source.lint]

theorem Source.lint_of_program (file source : String) (program : Program) (setting : Setting) :
    ∃ messages, Source.lint file source (.program [] program) setting = .ok messages ∧
      List.Forall₂ (fun d m => m.Locates (content source) d) (program.lint setting) messages := by
  refine ⟨_, rfl, List.forall₂_map_right_iff.mpr ?_⟩
  rw [List.forall₂_same]
  intro d _
  exact d.locates_locate (content source)

/-- Linting a text fails just if the parser gave up or found errors, whatever the setting is. Otherwise its messages
    are those of the parsed program, one for each in order, with the positions of the spans. A boundary of the text
    has the position that the table of line starts gives it. Boundaries have their positions in the same order, so a
    message about a stretch of the text starts before it ends, and no two boundaries share a position. Lines and
    columns count from one. -/
theorem source_lint_locates (file source : String) (parsed : Parsed) (setting : Setting) :
    ((∃ error, Source.lint file source parsed setting = .error error) ↔
      (∃ cause, parsed = .failed cause) ∨ ∃ errors program, parsed = .program errors program ∧ errors ≠ []) ∧
    (∀ program, parsed = .program [] program →
      ∃ messages, Source.lint file source parsed setting = .ok messages ∧
        List.Forall₂ (fun d m => m.Locates (content source) d) (program.lint setting) messages) ∧
    (∀ before after, content source = before ++ after →
      position (content source) (bytes before + 1) = lookup before after) ∧
    (∀ p q, IsBoundary (content source) p → IsBoundary (content source) q → p < q →
      position (content source) p < position (content source) q) ∧
    (∀ (d : Diagnostic) (m : Message), m.Locates (content source) d → IsBoundary (content source) d.span.lo →
      IsBoundary (content source) d.span.hi → d.span.lo < d.span.hi → m.start < m.stop) ∧
    (∀ p q, IsBoundary (content source) p → IsBoundary (content source) q →
      position (content source) p = position (content source) q → p = q) ∧
    ∀ p, 1 ≤ (position (content source) p).line ∧ 1 ≤ (position (content source) p).column := by
  refine ⟨exists_lint_eq_error_iff, ?_, ?_, fun _ _ => position_lt_of_lt, fun _ _ => Message.Locates.start_lt_stop,
    fun _ _ => position_injective, fun _ => ?_⟩
  · rintro program rfl
    exact lint_of_program file source program setting
  · intro before after split
    rw [split]
    exact position_eq_lookup before after
  · exact Position.one_le_advance (Nat.le_refl 1) (Nat.le_refl 1) _ _

/-- The text has a byte order mark, a character of four bytes, a break of two characters and a break at its end. Its
    second statement is in the second line, and so is the end of the text. -/
theorem source_lint_of_two_lines :
    ∃ p : Program, ∃ first second,
      Source.lint "a.js" "\uFEFF𝒜;\r\nb\r" (.program [] p) .standard = .ok [first, second] ∧
      first.stop = ⟨1, 4⟩ ∧ second.start = ⟨2, 1⟩ ∧ first.start < first.stop ∧ second.start < second.stop ∧
      position (content "\uFEFF𝒜;\r\nb\r") 10 = ⟨2, 3⟩ := by
  have chars : content "\uFEFF𝒜;\r\nb\r" = ['𝒜', ';', '\r', '\n', 'b', '\r'] := by decide +kernel
  refine ⟨.script [.expr ⟨1, 6⟩ (.ident "𝒜"), .expr ⟨8, 9⟩ (.ident "b")], ?_⟩
  obtain ⟨-, found, table, -, ordered, -⟩ := source_lint_locates "a.js" "\uFEFF𝒜;\r\nb\r"
    (.program [] (.script [.expr ⟨1, 6⟩ (.ident "𝒜"), .expr ⟨8, 9⟩ (.ident "b")])) .standard
  obtain ⟨messages, done, located⟩ := found _ rfl
  have lints : Program.lint (.script [.expr ⟨1, 6⟩ (.ident "𝒜"), .expr ⟨8, 9⟩ (.ident "b")]) .standard =
      [Rule.diagnostic .error ⟨1, 6⟩, Rule.diagnostic .error ⟨8, 9⟩] := by decide +kernel
  rw [lints] at located
  rw [chars] at table ordered located ⊢
  obtain ⟨first, _, one, later, rfl⟩ := List.forall₂_cons_left_iff.mp located
  obtain ⟨second, _, other, none, rfl⟩ := List.forall₂_cons_left_iff.mp later
  obtain rfl := List.forall₂_nil_left_iff.mp none
  have boundary (n : Nat) : IsBoundary ['𝒜', ';', '\r', '\n', 'b', '\r']
      (bytes (['𝒜', ';', '\r', '\n', 'b', '\r'].take n) + 1) :=
    ⟨_, _, (List.take_append_drop n _).symm, rfl⟩
  refine ⟨first, second, done, ?_, ?_, ?_, ?_, ?_⟩
  · exact one.stop.trans (table ['𝒜', ';'] ['\r', '\n', 'b', '\r'] rfl)
  · exact other.start.trans (table ['𝒜', ';', '\r', '\n'] ['b', '\r'] rfl)
  · exact ordered _ _ one (boundary 0) (boundary 2) (by decide)
  · exact ordered _ _ other (boundary 4) (boundary 5) (by decide)
  · exact table ['𝒜', ';', '\r', '\n', 'b', '\r'] [] rfl

end UnusedExpr
