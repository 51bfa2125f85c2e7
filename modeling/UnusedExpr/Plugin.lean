import UnusedExpr.Rule.Description
import UnusedExpr.Setting.Basic

/-!
# The plugin and its presets

A preset is a shareable rule map (§6). There are two styles of configuration, which differ only in how they
refer to the plugin. The recommended presets switch the host's own rule off, since it would report every
assertion, and this rule on.
-/

namespace UnusedExpr

/-- How a configuration refers to the plugin. -/
inductive Preset.Style where
  /-- By its name. -/
  | legacy
  /-- By its name and what it says about itself. -/
  | flat
deriving DecidableEq, Repr

def Preset.Style.name : Preset.Style → String
  | .legacy => "Legacy"
  | .flat => "Flat"

/-- A shareable configuration. -/
structure Preset where
  style : Preset.Style
  rules : RuleMap

/-- What a plugin says about itself. -/
structure Plugin.Info where
  name : String
  version : String

def Plugin.Info.toJson (info : Plugin.Info) : Json :=
  .object [("name", .string info.name), ("version", .string info.version)]

namespace Preset

/-- The setting of a rule, if the preset has one. -/
def rule? (p : Preset) (id : String) : Option Setting :=
  p.rules.get? id

def pluginsJson (style : Style) (info : Plugin.Info) : Json :=
  match style with
  | .legacy => .array [.string pluginName]
  | .flat => .object [(pluginName, .object [("meta", info.toJson)])]

/-- The preset as a configuration object. -/
def toJson (p : Preset) (info : Plugin.Info) : Json :=
  .object [("plugins", pluginsJson p.style info), ("rules", p.rules.toJson)]

/-- The host's own rule, which this plugin replaces. -/
def hostRule : String := "no-unused-expressions"

def recommended (style : Style) : Preset :=
  ⟨style, .ofList [(hostRule, .off), (Rule.id, .standard)]⟩

end Preset

/-- All that a host needs to register the plugin. -/
structure Plugin where
  info : Plugin.Info
  rules : List (String × Rule.Description)
  presets : List (String × Preset)

namespace Plugin

/-- This plugin. -/
def standard : Plugin where
  info := ⟨pluginName, "1.1.0"⟩
  rules := [(Rule.name, Rule.description)]
  presets := [("recommended", .recommended .legacy), ("recommended-flat", .recommended .flat)]

/-- A preset by its name. -/
def preset? (p : Plugin) (name : String) : Option Preset :=
  p.presets.lookup name

def toJson (p : Plugin) : Json :=
  .object [("meta", p.info.toJson),
    ("rules", .object (p.rules.map fun (name, description) => (name, description.toJson))),
    ("configs", .object (p.presets.map fun (name, preset) => (name, preset.toJson p.info)))]

end Plugin

end UnusedExpr
