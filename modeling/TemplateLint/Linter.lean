import TemplateLint.Config.Basic
import TemplateLint.Findings
import TemplateLint.Rule

/-!
# Linters

A linter is a list of active rules. It is built from rules that are given directly and from those
that a configuration enables, which plugins provide. Linting a template lets every active rule look
at every element, and puts the diagnostics in the order of their start.

## Main definitions

* `Blueprint`: what a linter is built from, and `Blueprint.build`
* `LintError`: why a linter cannot be built
* `Linter.lint`: the findings in a template
-/

namespace TemplateLint

/-- Why a linter cannot be built. -/
inductive LintError where
  /-- The configuration lists a plugin that is not registered. -/
  | unknownPlugin (name : String)
  /-- The configuration enables a rule that no registered plugin provides. -/
  | unknownRule (name : String)
  /-- A rule rejects its options. -/
  | configuration (e : ConfigurationError)
  deriving Inhabited

/-- The message of the error. -/
def LintError.message : LintError → String
  | .unknownPlugin name => "Unknown plugin '" ++ name ++ "' in configuration"
  | .unknownRule name => "Unknown rule '" ++ name ++ "' in configuration"
  | .configuration e => e.message

/-- A rule and the severity at which it runs. -/
structure ActiveRule where
  rule : Rule
  severity : Severity

/-- The rules that look at templates, in the order in which they run. -/
structure Linter where
  rules : List ActiveRule := []

/-! ### Building -/

/-- What a linter is built from. -/
structure Blueprint where
  /-- Rules that run in any case, at their default severity. -/
  rules : List Rule := []
  /-- Plugins whose rules the configuration may enable. -/
  plugins : List Plugin := []
  config : Config := {}

namespace Blueprint

/-- The rule called `name` of the first plugin that has one. -/
def provider? (plugins : List Plugin) (name : String) : Option RuleDescriptor :=
  plugins.findSome? (·.rule? name)

/-- The first plugin that the configuration lists and that is not registered. -/
def missingPlugin? (b : Blueprint) : Option String :=
  b.config.plugins.find? fun name => ! b.plugins.any (·.name = name)

/-- The rule that one entry of the configuration enables, if it enables one. -/
def activate (plugins : List Plugin) (name : String) (setting : Setting) :
    Logged (Except LintError (Option ActiveRule)) :=
  match provider? plugins name, setting with
  | none, .disabled => pure (.ok none)
  | none, .enabled _ _ => pure (.error (.unknownRule name))
  | some _, .disabled => do
    Logged.emit .debug ("Skipping disabled rule: " ++ name)
    return .ok none
  | some descriptor, .enabled severity options => do
    match ← descriptor.build options with
    | .error e => return .error (.configuration e)
    | .ok rule =>
      let severity := severity.getD rule.defaultSeverity
      Logged.emit .debug ("Enabled rule " ++ name ++ " at " ++ severity.name)
      return .ok (some ⟨rule, severity⟩)

/-- The rules that entries of the configuration enable, in the order of the entries. The first
entry at fault ends the work. -/
def activateAll (plugins : List Plugin) :
    List (String × Json) → Logged (Except LintError (List ActiveRule))
  | [] => pure (.ok [])
  | (name, raw) :: rest => do
    match ← activate plugins name (Setting.ofRaw raw) with
    | .error e => return .error e
    | .ok active? =>
      match ← activateAll plugins rest with
      | .error e => return .error e
      | .ok active => return .ok (active?.toList ++ active)

/-- The linter: the given rules, followed by those that the configuration enables. -/
def build (b : Blueprint) : Logged (Except LintError Linter) :=
  match b.missingPlugin? with
  | some name => pure (.error (.unknownPlugin name))
  | none => do
    match ← activateAll b.plugins b.config.rules with
    | .error e => return .error e
    | .ok active => return .ok ⟨b.rules.map (fun r => ⟨r, r.defaultSeverity⟩) ++ active⟩

end Blueprint

/-! ### Linting -/

/-- What a rule finds in a template, element by element. -/
def ActiveRule.inspect (a : ActiveRule) (t : Template) (source : String) :
    Logged (List Diagnostic) :=
  Logged.flatMap t.elements (a.rule.visit ⟨a.rule.name, a.severity, source⟩)

namespace Linter

/-- The names of the active rules. -/
def names (l : Linter) : List String :=
  l.rules.map (·.rule.name)

/-- Name, severity and options of the active rules. -/
def settings (l : Linter) : List (String × Severity × Json) :=
  l.rules.map fun a => (a.rule.name, a.severity, a.rule.options)

/-- Diagnostics in the order of their start. Those that start at one place stay in the order in
which they were reported. -/
def sortByStart (ds : List Diagnostic) : List Diagnostic :=
  ds.mergeSort fun a b => a.span.start ≤ b.span.start

/-- The findings in one template. -/
def lint (l : Linter) (t : Template) (source : String) : Logged Findings := do
  let found ← Logged.flatMap l.rules fun a => a.inspect t source
  Logged.emit .info <|
    "Lint complete: " ++ toString found.length ++ " diagnostic(s) from " ++
      toString l.rules.length ++ " rule(s)"
  return ⟨sortByStart found, 1⟩

end Linter

end TemplateLint
