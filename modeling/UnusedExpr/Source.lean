import UnusedExpr.Lint

/-!
# Linting source texts

A source text is linted through what a parser made of it. Messages give lines and columns in place of the
offsets in the tree, which count from one and leave out a byte order mark. A position is a line and a
column, both from one. A line ends at a line feed, at a carriage return, or at both together. A column
counts UTF-16 units. A break at the very end of the text starts no new line.
-/

namespace UnusedExpr

/-! ### Positions -/

/-- A line and a column. -/
structure Position where
  line : Nat
  column : Nat
deriving DecidableEq, Repr

/-- The text without a byte order mark in front. -/
def Source.content (source : String) : List Char :=
  match source.toList with
  | c :: rest => if c.toNat = 0xFEFF then rest else c :: rest
  | [] => []

/-- How many UTF-16 units a character takes. -/
def Source.units (c : Char) : Nat :=
  if c.toNat < 0x10000 then 1 else 2

/-- Whether a line ends after a character, given the characters that follow. -/
def Source.endsLine (c : Char) (rest : List Char) : Bool :=
  !rest.isEmpty && (c == '\n' || (c == '\r' && rest.head? != some '\n'))

namespace Position

/-- The first position of a text. -/
def start : Position := ⟨1, 1⟩

/-- The position after a character, given the characters that follow. -/
def next (p : Position) (c : Char) (rest : List Char) : Position :=
  if Source.endsLine c rest then ⟨p.line + 1, 1⟩ else ⟨p.line, p.column + Source.units c⟩

/-- The position that lies `offset` bytes after `p`, which stands in front of the characters. -/
def advance (p : Position) : List Char → Nat → Position
  | [], _ => p
  | c :: rest, offset => if offset < c.utf8Size then p else (p.next c rest).advance rest (offset - c.utf8Size)

/-- The position of an offset in bytes into the content of a text. -/
def ofOffset (content : List Char) (offset : Nat) : Position :=
  start.advance content offset

end Position

/-! ### Messages -/

/-- What a parser answered. -/
inductive Parsed where
  /-- It gave up. -/
  | failed (message : String)
  /-- It found a program, perhaps after mending some errors. -/
  | program (errors : List String) (program : Program)

/-- A source text that could not be parsed (§7). -/
structure Source.Error where
  file : String
  cause : String

def Source.Error.message (e : Source.Error) : String :=
  "failed to parse " ++ e.file ++ ": " ++ e.cause

/-- A diagnostic with its place in the text. -/
structure Message where
  ruleId : String
  messageId : String
  message : String
  severity : Severity
  start : Position
  stop : Position
deriving DecidableEq, Repr

/-- The position of an offset that counts from one. -/
def Source.position (content : List Char) (offset : Nat) : Position :=
  .ofOffset content (offset - 1)

def Diagnostic.locate (d : Diagnostic) (content : List Char) : Message where
  ruleId := d.ruleId
  messageId := d.messageId
  message := d.message
  severity := d.severity
  start := Source.position content d.span.lo
  stop := Source.position content d.span.hi

/-- Lints a source text. Any parse error, even a mended one, is an error, whatever the setting is. -/
def Source.lint (file source : String) (parsed : Parsed) (setting : Setting) :
    Except Source.Error (List Message) :=
  match parsed with
  | .failed cause => .error ⟨file, cause⟩
  | .program (cause :: _) _ => .error ⟨file, cause⟩
  | .program [] program =>
    .ok ((program.lint setting).map fun d => d.locate (Source.content source))

end UnusedExpr
