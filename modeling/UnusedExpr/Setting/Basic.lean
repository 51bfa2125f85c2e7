import UnusedExpr.Setting.Options
import UnusedExpr.Setting.Severity

/-!
# Rule settings

A setting is a severity with options. It is written as a severity alone, or as an array of a severity and
at most one value for the options (§9). Of several faults the first of these is reported: an empty array, a
bad severity, too many elements, bad options. A rule map gives settings to rule ids. It is read from an
object entry by entry, up to the first entry that is no setting.
-/

namespace UnusedExpr

/-- How the rule is set (§9). -/
structure Setting where
  severity : Severity
  options : Options
deriving DecidableEq, Repr

namespace Setting

def off : Setting := ⟨.off, {}⟩

def warn (options : Options) : Setting := ⟨.warn, options⟩

def error (options : Options) : Setting := ⟨.error, options⟩

/-- The setting of a rule that is only switched on. -/
def standard : Setting := error {}

/-- Whether findings are reported at all. A rule that is off looks at no program (§9). -/
def isEnabled (s : Setting) : Bool :=
  s.severity.isEnabled

/-- The severity alone if no switch is on, and otherwise the severity with all switches. -/
def toJson (s : Setting) : Json :=
  if s.options = {} then s.severity.toJson else .array [s.severity.toJson, s.options.toJson]

inductive Error where
  | emptyArray
  | severity (cause : Severity.Error)
  /-- More than one value after the severity. -/
  | surplus (count : Nat)
  | options (cause : Options.Error)

def Error.message : Error → String
  | .emptyArray => "rule setting arrays must start with a severity"
  | .severity cause => cause.message
  | .surplus count =>
    "expected at most one options object after the severity, got " ++ (Number.int count).text
  | .options cause => cause.message

def readSeverity (value : Json) : Except Error Severity :=
  (Severity.ofJson value).mapError .severity

/-- The options after the severity of an array. -/
def readOptions : List Json → Except Error Options
  | [] => .ok {}
  | [value] => (Options.ofJson value).mapError .options
  | rest => .error (.surplus rest.length)

/-- Reads a setting in one of its forms (§9). -/
def ofJson : Json → Except Error Setting
  | .array [] => .error .emptyArray
  | .array (first :: rest) => do
    let severity ← readSeverity first
    let options ← readOptions rest
    .ok ⟨severity, options⟩
  | value => do .ok ⟨← readSeverity value, {}⟩

/-- Reads a setting where of an error only the text is kept. -/
def decode (value : Json) : Except String Setting :=
  (ofJson value).mapError Error.message

end Setting

/-! ### Settings by rule -/

/-- Settings of rules. -/
abbrev RuleMap := Table Setting

namespace RuleMap

def toJson (m : RuleMap) : Json :=
  .object (m.entries.map fun entry => (entry.1, entry.2.toJson))

inductive Error where
  | wrongKind (found : Json)
  | setting (id : String) (cause : Setting.Error)

def Error.message : Error → String
  | .wrongKind found => found.wrongKind "a map"
  | .setting _ cause => cause.message

/-- Adds the settings that the fields hold. -/
def readFields (m : RuleMap) : List (String × Json) → Except Error RuleMap
  | [] => .ok m
  | (id, value) :: rest => do
    let setting ← (Setting.ofJson value).mapError (.setting id)
    readFields (m.insert id setting) rest

def ofJson : Json → Except Error RuleMap
  | .object fields => readFields .empty fields
  | value => .error (.wrongKind value)

/-- Reads a rule map where of an error only the text is kept. -/
def decode (value : Json) : Except String RuleMap :=
  (ofJson value).mapError Error.message

end RuleMap

end UnusedExpr
