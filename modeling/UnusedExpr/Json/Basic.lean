import UnusedExpr.Assoc
import UnusedExpr.Binary64

/-!
# JSON values

Numbers keep how they were written: a whole number that fits a machine word is an integer, and any other
number is a double, so `1` and `1.0` are different values. An object's fields keep their order. The values
that a text can hold are the well-formed ones: every integer in them fits a word, and the fields of every
object in them are a table.
-/

namespace UnusedExpr

inductive Number where
  | int (value : Int)
  | float (value : Binary64)
deriving DecidableEq, Repr

/-- An integer fits a word: 64 bits, or 63 bits below zero. -/
def Number.Fits : Number → Prop
  | .int value => -(twoTo 63 : Int) ≤ value ∧ value < twoTo 64
  | .float _ => True

inductive Json where
  | null
  | bool (value : Bool)
  | number (value : Number)
  | string (value : String)
  | array (elements : List Json)
  | object (fields : List (String × Json))
deriving Inhabited

namespace Json

/-- The fields of an object, with no key twice. -/
abbrev Fields := Table Json

/-- A value that a text can hold. -/
inductive WellFormed : Json → Prop where
  | null : WellFormed .null
  | bool (value : Bool) : WellFormed (.bool value)
  | number {value : Number} (fits : value.Fits) : WellFormed (.number value)
  | string (value : String) : WellFormed (.string value)
  | array {elements : List Json} (each : ∀ element ∈ elements, WellFormed element) : WellFormed (.array elements)
  | object (fields : Fields) (each : ∀ field ∈ fields.entries, WellFormed field.2) :
      WellFormed (.object fields.entries)

/-- What a text holds. -/
structure Document where
  value : Json
  wellFormed : value.WellFormed

/-- The value of a field, if this is an object that has it. -/
def get? (value : Json) (key : String) : Option Json :=
  match value with
  | .object fields => fields.lookup key
  | _ => none

def string? : Json → Option String
  | .string value => some value
  | _ => none

def array? : Json → Option (List Json)
  | .array elements => some elements
  | _ => none

/-- A whole number that is not negative. -/
def nat? : Json → Option Nat
  | .number (.int value) => value.toNat?
  | _ => none

mutual

/-- How many containers enclose the innermost value, itself included. -/
def depth : Json → Nat
  | .array elements => depthOfElements elements + 1
  | .object fields => depthOfFields fields + 1
  | _ => 1

def depthOfElements : List Json → Nat
  | [] => 0
  | element :: rest => max element.depth (depthOfElements rest)

def depthOfFields : List (String × Json) → Nat
  | [] => 0
  | (_, value) :: rest => max value.depth (depthOfFields rest)

end

end Json

end UnusedExpr
