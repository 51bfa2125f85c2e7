import UnusedExpr.Json.Printer

/-!
# Options of the rule

The rule has four switches, all off by default (§3 of the specification). They are written as an object
that names the switches it sets, or as an array that gives them in order. The entries are read in order and
the first that is no switch with a boolean decides the error, which also says where it stands (§7).
-/

namespace UnusedExpr

inductive Switch where
  /-- Allow `a && b()`. -/
  | shortCircuit
  /-- Allow `a ? b() : c()`. -/
  | ternary
  /-- Allow tagged templates. -/
  | taggedTemplates
  /-- Report JSX elements and fragments. -/
  | jsx
deriving DecidableEq, Repr

namespace Switch

/-- The switches in the order in which they are written. -/
def all : List Switch := [.shortCircuit, .ternary, .taggedTemplates, .jsx]

def name : Switch → String
  | .shortCircuit => "allowShortCircuit"
  | .ternary => "allowTernary"
  | .taggedTemplates => "allowTaggedTemplates"
  | .jsx => "enforceForJSX"

def ofName? (name : String) : Option Switch :=
  all.find? fun s => s.name == name

end Switch

/-- The options of the rule (§3). -/
structure Options where
  allowShortCircuit : Bool := false
  allowTernary : Bool := false
  allowTaggedTemplates : Bool := false
  enforceForJsx : Bool := false
deriving DecidableEq, Repr, Inhabited

namespace Options

def get (o : Options) : Switch → Bool
  | .shortCircuit => o.allowShortCircuit
  | .ternary => o.allowTernary
  | .taggedTemplates => o.allowTaggedTemplates
  | .jsx => o.enforceForJsx

def set (o : Options) (s : Switch) (value : Bool) : Options :=
  match s with
  | .shortCircuit => { o with allowShortCircuit := value }
  | .ternary => { o with allowTernary := value }
  | .taggedTemplates => { o with allowTaggedTemplates := value }
  | .jsx => { o with enforceForJsx := value }

@[simp] theorem get_set_self (o : Options) (s : Switch) (value : Bool) : (o.set s value).get s = value := by
  cases s <;> rfl

theorem get_set_of_ne {s t : Switch} (different : t ≠ s) (o : Options) (value : Bool) :
    (o.set s value).get t = o.get t := by
  cases s <;> cases t <;> first | rfl | exact absurd rfl different

/-- Options are equal if their switches are. -/
theorem ext_get {o p : Options} (same : ∀ s, o.get s = p.get s) : o = p := by
  cases o; cases p
  have h := (⟨same .shortCircuit, same .ternary, same .taggedTemplates, same .jsx⟩ : _ ∧ _ ∧ _ ∧ _)
  simpa [get] using h

/-- All four switches, in order. -/
def toJson (o : Options) : Json :=
  .object (Switch.all.map fun s => (s.name, .bool (o.get s)))

/-! ### Reading -/

/-- Where in the options a problem is. -/
inductive Place where
  | whole
  | key (name : String)
  | index (position : Nat)
deriving DecidableEq, Repr

def Place.text : Place → String
  | .whole => "."
  | .key name => name
  | .index i => "[" ++ (Number.int i).text ++ "]"

inductive Problem where
  /-- Neither an object nor an array. -/
  | notOptions (found : Json)
  | notBoolean (found : Json)
  | unknownKey (key : String)
  /-- More elements than there are switches. -/
  | tooLong (length : Nat)

def Problem.message : Problem → String
  | .notOptions found => found.wrongKind "struct Options"
  | .notBoolean found => found.wrongKind "a boolean"
  | .unknownKey key =>
    let names := Switch.all.map fun s => "`" ++ s.name ++ "`"
    "unknown field `" ++ key ++ "`, expected one of " ++ String.intercalate ", " names
  | .tooLong length =>
    "invalid length " ++ (Number.int length).text ++ ", expected fewer elements in array"

/-- Why a value is no set of options, with the path to what is wrong (§7). -/
structure Error where
  place : Place
  problem : Problem

def Error.message (e : Error) : String :=
  "invalid options at `" ++ e.place.text ++ "`: " ++ e.problem.message

/-- A value that has to be a boolean. -/
def readSwitch (place : Place) : Json → Except Error Bool
  | .bool value => .ok value
  | found => .error ⟨place, .notBoolean found⟩

/-- Sets the switches that the fields name, on top of `o`. -/
def readFields (o : Options) : List (String × Json) → Except Error Options
  | [] => .ok o
  | (key, value) :: rest =>
    match Switch.ofName? key with
    | none => .error ⟨.key key, .unknownKey key⟩
    | some s => do (o.set s (← readSwitch (.key key) value)).readFields rest

/-- Sets the given switches to the elements, the first of which stands at `index`, and says how many
    elements are left over. -/
def readElements (o : Options) (index : Nat) : List Switch → List Json → Except Error (Options × Nat)
  | s :: switches, value :: rest => do
    (o.set s (← readSwitch (.index index) value)).readElements (index + 1) switches rest
  | _, rest => .ok (o, rest.length)

/-- Reads options. An unknown key is an error (§3, §9). -/
def ofJson : Json → Except Error Options
  | .object fields => readFields {} fields
  | .array elements => do
    let (o, surplus) ← readElements {} 0 Switch.all elements
    if surplus = 0 then .ok o else .error ⟨.whole, .tooLong elements.length⟩
  | value => .error ⟨.whole, .notOptions value⟩

end Options

end UnusedExpr
