import UnusedExpr.Json.Printer

/-!
# Severities

A severity is written as one of three names or as one of three levels (§9). A level is an integer: the
double `1.0` is not the level `1`.
-/

namespace UnusedExpr

/-- How a rule's findings are treated (§9). -/
inductive Severity where
  | off
  | warn
  | error
deriving DecidableEq, Repr

namespace Severity

def name : Severity → String
  | .off => "off"
  | .warn => "warn"
  | .error => "error"

/-- The place in the order `off < warn < error`. -/
def level : Severity → Nat
  | .off => 0
  | .warn => 1
  | .error => 2

def all : List Severity := [.off, .warn, .error]

/-- Whether findings are reported at all. -/
def isEnabled (s : Severity) : Bool :=
  s != .off

def toJson (s : Severity) : Json :=
  .string s.name

inductive Error where
  | unknownName (name : String)
  | unknownLevel (level : Number)
  | wrongKind (found : Json)

def Error.message : Error → String
  | .unknownName name => "unknown severity \"" ++ name ++ "\", expected \"off\", \"warn\" or \"error\""
  | .unknownLevel level => "unknown severity " ++ level.text ++ ", expected 0, 1 or 2"
  | .wrongKind found => "expected a severity, got " ++ found.text

def ofName? (name : String) : Option Severity :=
  all.find? fun s => s.name == name

def ofLevel? (level : Number) : Option Severity :=
  all.find? fun s => level == .int s.level

/-- Reads a severity. Any other name or level is an error (§9). -/
def ofJson : Json → Except Error Severity
  | .string name => (ofName? name).elim (.error (.unknownName name)) .ok
  | .number level => (ofLevel? level).elim (.error (.unknownLevel level)) .ok
  | value => .error (.wrongKind value)

/-! ### Lists of severities -/

inductive ListError where
  | wrongKind (found : Json)
  | element (cause : Error)

def ListError.message : ListError → String
  | .wrongKind found => found.wrongKind "a sequence"
  | .element cause => cause.message

/-- Reads a list of severities, up to the first element that is none. -/
def listOfJson : Json → Except ListError (List Severity)
  | .array elements => (elements.mapM ofJson).mapError .element
  | value => .error (.wrongKind value)

/-- The list from the mildest severity to the strictest. -/
def sort (severities : List Severity) : List Severity :=
  severities.mergeSort fun a b => a.level ≤ b.level

end Severity

end UnusedExpr
