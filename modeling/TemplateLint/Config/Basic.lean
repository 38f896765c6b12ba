import TemplateLint.Json.Basic
import TemplateLint.Severity

/-!
# Configurations

A configuration lists plugins that have to be there and gives the raw settings of rules by name,
each name once and in increasing order. A setting disables its rule, or it enables the rule with
options and, perhaps, with a severity in place of its own.

## Main definitions

* `Setting` and `Setting.ofRaw`: how a raw setting is understood
* `Config`, `Config.ofSettings`, `Config.setting`
-/

namespace TemplateLint

/-! ### Settings of rules -/

/-- What a configuration says about a rule. -/
inductive Setting where
  /-- The rule is not built. -/
  | disabled
  /-- The rule runs with these options, at this severity if there is one. -/
  | enabled (severity : Option Severity) (options : Json)
  deriving Inhabited

namespace Setting

/-- The setting that names itself: its options are the raw setting. -/
def verbatim (raw : Json) : Setting := .enabled none raw

/-- How a name is understood, alone or at the front of a pair: as the end of a rule, as a severity
for the given options, or not at all. -/
def ofName (name : String) (options raw : Json) : Setting :=
  if name = "off" then .disabled
  else match Severity.ofName? name with
    | some severity => .enabled (some severity) options
    | none => verbatim raw

/-- How a raw setting is understood. False and `off` disable a rule; the name of a severity enables
it with the options `true`; a pair of a name and options is understood like the name, with those
options. All else enables the rule and is its options. -/
def ofRaw : Json → Setting
  | .bool false => .disabled
  | .str name => ofName name (.bool true) (.str name)
  | .arr [.str name, options] => ofName name options (.arr [.str name, options])
  | raw => verbatim raw

/-- Whether a setting enables its rule. -/
def isEnabled : Setting → Bool
  | .disabled => false
  | .enabled _ _ => true

end Setting

/-! ### Configurations -/

/-- Which plugins have to be there, and the raw settings of rules. -/
structure Config where
  plugins : List String := []
  rules : List (String × Json) := []
  ordered : Json.Ordered rules := by exact List.Pairwise.nil

namespace Config

instance : Inhabited Config := ⟨{}⟩

/-- A configuration from settings in any order. Of two settings of one rule the last one holds. -/
def ofSettings (plugins : List String) (rules : List (String × Json)) : Config :=
  ⟨plugins, Json.sortMembers rules, Json.ordered_sortMembers rules⟩

/-- The setting of a rule; a rule that is not named is disabled. -/
def setting (c : Config) (rule : String) : Setting :=
  match Json.lookup rule c.rules with
  | some raw => Setting.ofRaw raw
  | none => .disabled

/-- Whether a configuration enables a rule. -/
def isEnabled (c : Config) (rule : String) : Bool :=
  (c.setting rule).isEnabled

end Config

end TemplateLint
