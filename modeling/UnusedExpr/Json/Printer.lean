import UnusedExpr.Decimal
import UnusedExpr.Json.Basic
import UnusedExpr.Text.Quoted

/-!
# JSON values as text

A value is written without blanks, an object's fields in their order. In strings only the quote, the
backslash and the characters below the blank are escaped. Messages about a value of the wrong kind name its
kind, and show it if it is a simple value.
-/

namespace UnusedExpr

/-- Doubles are positional from `0.00001` to below `10^16`, always with a point there, and otherwise have
    a signed exponent: `1.0`, `1e-7`, `1e+16`. -/
def Number.layout : Decimal.Layout where
  leastPositional := -5
  endPositional := 16
  wholeMark := ".0"
  upMark := "e+"
  downMark := "e-"

/-- The shortest text that reads back as the same double. -/
def Binary64.text (x : Binary64) : String :=
  let sign := if x.negative then "-" else ""
  if x.magnitude.significand = 0 then sign ++ "0.0"
  else sign ++ (Decimal.shortest x.magnitude).write Number.layout

/-- The text of a decimal once it is a double. -/
private def Binary64.textOf (digits : Nat) (power : Int) : Option String :=
  (Magnitude.ofDecimal digits power).map fun magnitude => Binary64.text ⟨false, magnitude⟩

example : Binary64.textOf 1 (-5) = some "0.00001" := by decide +kernel
example : Binary64.textOf 1 (-6) = some "1e-6" := by decide +kernel
example : Binary64.textOf 1 15 = some "1000000000000000.0" := by decide +kernel
example : Binary64.textOf 1 16 = some "1e+16" := by decide +kernel
example : Binary64.textOf 5 (-324) = some "5e-324" := by decide +kernel

def Number.text : Number → String
  | .int value => (if value < 0 then "-" else "") ++ String.ofList (Decimal.figures value.natAbs)
  | .float value => value.text

theorem Number.text_natCast (n : Nat) : (Number.int n).text = toString n := by
  have positive : ¬(n : Int) < 0 := by omega
  rw [text, if_neg positive, String.empty_append]
  rfl

namespace Json

/-- The last `count` hexadecimal digits of a number, in lower case. -/
def hex (count n : Nat) : List Char :=
  match count with
  | 0 => []
  | count + 1 => hex count (n / 16) ++ [Nat.digitChar (n % 16)]

/-- A character inside a JSON string. -/
def escape (c : Char) : List Char :=
  if c = '"' then ['\\', '"']
  else if c = '\\' then ['\\', '\\']
  else if c.toNat = 8 then ['\\', 'b']
  else if c.toNat = 9 then ['\\', 't']
  else if c.toNat = 10 then ['\\', 'n']
  else if c.toNat = 12 then ['\\', 'f']
  else if c.toNat = 13 then ['\\', 'r']
  else if c.toNat < 32 then '\\' :: 'u' :: hex 4 c.toNat
  else [c]

def quote (s : String) : String :=
  "\"" ++ String.ofList (s.toList.flatMap escape) ++ "\""

mutual

def text : Json → String
  | .null => "null"
  | .bool value => if value then "true" else "false"
  | .number value => value.text
  | .string value => quote value
  | .array elements => "[" ++ String.intercalate "," (elementTexts elements) ++ "]"
  | .object fields => "\x7b" ++ String.intercalate "," (fieldTexts fields) ++ "\x7d"

def elementTexts : List Json → List String
  | [] => []
  | element :: rest => element.text :: elementTexts rest

def fieldTexts : List (String × Json) → List String
  | [] => []
  | (key, value) :: rest => (quote key ++ ":" ++ value.text) :: fieldTexts rest

end

/-! ### Values in messages -/

/-- The kind of a value, with the value itself if it is simple. -/
def describe : Json → String
  | .null => "null"
  | .bool value => "boolean `" ++ (Json.bool value).text ++ "`"
  | .number (.int value) => "integer `" ++ (Number.int value).text ++ "`"
  | .number (.float value) => "floating point `" ++ (Number.float value).text ++ "`"
  | .string value => "string " ++ Text.quoted value
  | .array _ => "sequence"
  | .object _ => "map"

def wrongKind (found : Json) (expected : String) : String :=
  "invalid type: " ++ found.describe ++ ", expected " ++ expected

end Json

end UnusedExpr
