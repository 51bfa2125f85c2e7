import UnusedExpr.Setting.Options

/-!
# What the rule says about itself

The names under which the rule is known, the one message it gives (§3), and the description that it
publishes (§6). A schema in a description tells the JSON values that a rule takes for its options: booleans,
and objects with listed properties. Every property may be missing.
-/

namespace UnusedExpr

/-! ### Schemas -/

inductive Schema where
  /-- A boolean, with the value that stands in for a missing one if the schema tells it. -/
  | boolean (fallback : Option Bool)
  /-- An object with these properties, and with others only if it is open. -/
  | object (properties : List (String × Schema)) (isOpen : Bool)

namespace Schema

mutual

/-- The published form. -/
def toJson : Schema → Json
  | .boolean fallback =>
    .object (("type", .string "boolean") :: (fallback.map fun value => ("default", Json.bool value)).toList)
  | .object properties isOpen =>
    .object [("type", .string "object"), ("properties", .object (propertiesToJson properties)),
      ("additionalProperties", .bool isOpen)]

def propertiesToJson : List (String × Schema) → List (String × Json)
  | [] => []
  | (key, schema) :: rest => (key, schema.toJson) :: propertiesToJson rest

end

mutual

/-- Whether a value conforms. -/
def accepts : Schema → Json → Bool
  | .boolean _, .bool _ => true
  | .object properties isOpen, .object fields => fields.all fun field => acceptsField properties isOpen field
  | _, _ => false

/-- Whether a field of an object conforms to the property of its name. -/
def acceptsField : List (String × Schema) → Bool → String × Json → Bool
  | [], isOpen, _ => isOpen
  | (key, schema) :: rest, isOpen, field =>
    if field.1 = key then schema.accepts field.2 else acceptsField rest isOpen field

end

end Schema

/-! ### The rule -/

/-- The namespace of the plugin's rules. -/
def pluginName : String := "chai-friendly"

namespace Rule

/-- The rule's name inside its plugin. -/
def name : String := "no-unused-expressions"

/-- The rule's name in a configuration. -/
def id : String := pluginName ++ "/" ++ name

def messageId : String := "unusedExpression"

def message : String := "Expected an assignment or function call and instead saw an expression."

/-- The schema of the options: four booleans, of which the last tells its default. Other keys are refused
    (§3). -/
def optionsSchema : Schema :=
  .object [(Switch.shortCircuit.name, .boolean none), (Switch.ternary.name, .boolean none),
    (Switch.taggedTemplates.name, .boolean none), (Switch.jsx.name, .boolean (some false))] false

/-- The published description of a rule. -/
structure Description where
  kind : String
  summary : String
  category : String
  recommended : Bool
  schemas : List Schema
  messages : List (String × String)

/-- The description of this rule. -/
def description : Description where
  kind := "suggestion"
  summary := "disallow unused expressions"
  category := "Best Practices"
  recommended := false
  schemas := [optionsSchema]
  messages := [(messageId, message)]

def Description.toJson (d : Description) : Json :=
  .object [("type", .string d.kind),
    ("docs", .object [("description", .string d.summary), ("category", .string d.category),
      ("recommended", .bool d.recommended)]),
    ("schema", .array (d.schemas.map Schema.toJson)),
    ("messages", .object (d.messages.map fun (id, text) => (id, .string text)))]

end Rule

end UnusedExpr
