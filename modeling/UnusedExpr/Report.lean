import UnusedExpr.Setting.Severity
import UnusedExpr.Tree.Basic

/-!
# Diagnostics and those who receive them

A rule hands each diagnostic to a reporter, which may keep it or show it. The reporter is a parameter of
the walk, so that the same walk can collect diagnostics and feed a handler. A handler shows notices to the
user. It never shows the same notice twice, and counts the errors that it has shown.
-/

namespace UnusedExpr

/-- A finding of a rule (§3). -/
structure Diagnostic where
  ruleId : String
  messageId : String
  message : String
  severity : Severity
  span : Span
deriving DecidableEq, Repr

/-- A state that takes diagnostics one by one. -/
class Reporter (σ : Type) where
  report : σ → Diagnostic → σ

/-- A list collects diagnostics in the order in which they come. -/
instance : Reporter (List Diagnostic) where
  report collected d := collected ++ [d]

/-! ### The handler -/

inductive Level where
  | warning
  | error
deriving DecidableEq, Repr

def Level.name : Level → String
  | .warning => "warning"
  | .error => "error"

/-- What the user sees of a diagnostic. -/
structure Notice where
  level : Level
  message : String
  span : Span
deriving DecidableEq, Repr

/-- The level at which findings of a severity are shown, if they are. -/
def Severity.level? : Severity → Option Level
  | .off => none
  | .warn => some .warning
  | .error => some .error

/-- The notice about a diagnostic: its message with the rule's id. -/
def Diagnostic.notice? (d : Diagnostic) : Option Notice :=
  d.severity.level?.map fun level => ⟨level, d.message ++ " (" ++ d.ruleId ++ ")", d.span⟩

/-- The notices shown so far, in order. -/
structure Handler where
  shown : List Notice := []
deriving DecidableEq, Repr

namespace Handler

/-- Shows a notice unless it was shown before. -/
def emit (h : Handler) (n : Notice) : Handler :=
  if n ∈ h.shown then h else ⟨h.shown ++ [n]⟩

def errorCount (h : Handler) : Nat :=
  h.shown.countP fun n => n.level = .error

def hasErrors (h : Handler) : Bool :=
  h.errorCount > 0

instance : Reporter Handler where
  report h d := d.notice?.elim h h.emit

end Handler

end UnusedExpr
