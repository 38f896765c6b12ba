import TemplateLint.Diagnostic
import TemplateLint.Json.Printer
import TemplateLint.Log
import TemplateLint.Template.Basic

/-!
# Rules and plugins

A rule looks at one element at a time and says what it found there. It sees the element and a
scope: the name and the severity under which it runs, and the source of the template.

A plugin is a named list of rules that a configuration may enable. Each of them is built from the
options that the configuration gives, unless it rejects them.

## Main definitions

* `Scope`, `Scope.diagnostic`, `Scope.quote`: what a rule may use to report
* `Rule`: a rule with its name, its options and what it finds in an element
* `ConfigurationError` and its message
* `RuleDescriptor`, `Plugin`, `Plugin.rule?`
-/

namespace TemplateLint

/-! ### Rules -/

/-- What a rule knows about the run it takes part in. -/
structure Scope where
  /-- The name under which the rule reports. -/
  rule : String
  severity : Severity
  /-- The source of the template, which may be empty. -/
  source : String
  deriving DecidableEq, Repr

namespace Scope

/-- A diagnostic of the rule at a span, without a quotation. -/
def diagnostic (s : Scope) (span : Span) (message : String) : Diagnostic :=
  { rule := s.rule, severity := s.severity, message, span }

/-- The source text that a span covers. -/
def quote (s : Scope) (span : Span) : String :=
  Source.quote s.source span

end Scope

/-- A rule. -/
structure Rule where
  name : String
  /-- What the rule checks, in a few words. -/
  description : String := ""
  defaultSeverity : Severity := .error
  /-- The options after validation. -/
  options : Json := .bool true
  /-- What the rule finds in an element, children not included. -/
  visit : Scope → Element → Logged (List Diagnostic)

/-! ### Plugins -/

/-- A rule does not accept its options. -/
structure ConfigurationError where
  rule : String
  /-- The forms of options that the rule accepts, or where to read about them. -/
  accepted : List String
  /-- The options that were given. -/
  specified : Json
  deriving Inhabited

/-- The message of the error. -/
def ConfigurationError.message (e : ConfigurationError) : String :=
  "The " ++ e.rule ++ " rule accepts one of the following values.\n" ++
    String.join (e.accepted.map fun item => "  * " ++ item ++ "\n") ++
    "\nYou specified `" ++ e.specified.compact ++ "`"

/-- A rule that a plugin provides. -/
structure RuleDescriptor where
  name : String
  description : String
  /-- Builds the rule from its options. -/
  build : Json → Logged (Except ConfigurationError Rule)

/-- A named list of rules. -/
structure Plugin where
  name : String
  rules : List RuleDescriptor

/-- The first rule of that name. -/
def Plugin.rule? (p : Plugin) (name : String) : Option RuleDescriptor :=
  p.rules.find? (·.name = name)

end TemplateLint
