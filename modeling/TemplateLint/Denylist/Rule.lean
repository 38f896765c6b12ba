import TemplateLint.Denylist.Basic
import TemplateLint.Denylist.Pattern

/-!
# The denylist rule

The rule reports every forbidden pattern that the static text of an attribute contains. It reports
at the attribute and quotes the element. Only the first attribute of a name is looked at.

## Main definitions

* `Denylist.offences`: the entries and patterns that an element offends
* `Denylist.rule`: the rule of a denylist
* `Denylist.plugin`: the plugin that provides the rule
-/

namespace TemplateLint.Denylist

/-- A pattern that an attribute of an element contains. -/
structure Offence where
  target : Attribute
  pattern : String

/-- The words of a diagnostic. -/
def message (pattern name : String) : String :=
  "The value '" ++ pattern ++ "' is present in attribute '" ++ name ++ "', but is forbidden"

/-- The offences of an element against one entry. -/
def Entry.offences (entry : Entry) (e : Element) : List Offence :=
  match e.attribute? entry.name with
  | none => []
  | some target =>
    (forbiddenIn target.value.staticText entry.values).map fun pattern => ⟨target, pattern⟩

/-- The offences of an element, in the order of the entries and of their patterns. -/
def offences (d : Denylist) (e : Element) : List (Entry × Offence) :=
  d.entries.flatMap fun entry => (entry.offences e).map fun o => (entry, o)

/-- The diagnostic of an offence. -/
def diagnostic (scope : Scope) (e : Element) (entry : Entry) (o : Offence) : Diagnostic :=
  { scope.diagnostic o.target.loc (message o.pattern entry.name) with
    source := scope.quote e.loc }

/-- What the log says about an offence. -/
def trace (e : Element) (entry : Entry) (o : Offence) : Log.Entry :=
  ⟨.debug, "<" ++ e.tag ++ "> " ++ entry.name ++ ": forbidden value '" ++ o.pattern ++ "'"⟩

/-- What the rule finds in an element. -/
def visit (d : Denylist) (scope : Scope) (e : Element) : Logged (List Diagnostic) :=
  ⟨(d.offences e).map fun (entry, o) => diagnostic scope e entry o,
    (d.offences e).map fun (entry, o) => trace e entry o⟩

/-- What the rule does, in a few words. -/
def description : String := "Forbids configured values in element attributes"

/-- The rule of a denylist. -/
def rule (d : Denylist) : Rule :=
  { name := ruleName
    description := description
    options := d.toRaw
    visit := d.visit }

/-- Builds the rule from its options. -/
def buildRule (raw : Json) : Logged (Except ConfigurationError Rule) := do
  return (← parse raw).map rule

/-- The plugin that provides the rule. -/
def plugin : Plugin :=
  ⟨"template-lint-plugin-denylist", [⟨ruleName, description, buildRule⟩]⟩

end TemplateLint.Denylist
