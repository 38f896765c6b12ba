import TemplateLint.Command.Arguments
import TemplateLint.Command.Check
import TemplateLint.Json.Printer
import TemplateLint.Source.Annotation

/-!
# Printing findings

Findings are printed as text with the source that they are about, as JSON, or with one diagnostic
per line.

## Main definitions

* `Checked.print`: findings in a format
-/

namespace TemplateLint.Command

/-- Colours of the terminal. -/
inductive Colour where
  | red
  | green
  | yellow
  | blue
  deriving DecidableEq, Repr

namespace Colour

/-- What switches a colour on. -/
def code : Colour → String
  | red => "\x1b[31m"
  | green => "\x1b[32m"
  | yellow => "\x1b[33m"
  | blue => "\x1b[34m"

/-- What switches colours off. -/
def reset : String := "\x1b[0m"

/-- A text in a colour. -/
def paint (c : Colour) (text : String) : String :=
  c.code ++ text ++ reset

/-- The colour of a severity. -/
def ofSeverity : Severity → Colour
  | .error => red
  | .warning => yellow
  | .info => blue

end Colour

namespace Checked

/-- The source of a diagnostic, unless it is empty. -/
def sourceOf? (c : Checked) (d : Diagnostic) : Option (String × String) := do
  let file ← d.file
  let source ← c.source? file
  if source = "" then none else some (file, source)

/-- A diagnostic without its source. -/
def plain (d : Diagnostic) : String :=
  let file := match d.file with
    | some file => file ++ ":"
    | none => ""
  d.rule ++ " at " ++ file ++ Diagnostic.showPosition d.span.start ++ "\n" ++
    "  " ++ (Colour.ofSeverity d.severity).paint d.severity.name ++ ": " ++ d.message ++ "\n" ++
    d.quotedLine ++ "\n"

/-- A diagnostic with its source, if it has one. -/
def textOf (c : Checked) (d : Diagnostic) : String :=
  match c.sourceOf? d with
  | some (file, source) => Annotation.render d file source ++ "\n"
  | none => plain d

/-- The colour of a summary: that of the worst severity that counts. -/
def summaryColour (f : Findings) : Colour :=
  if 0 < f.count .error then .red
  else if 0 < f.count .warning then .yellow
  else .green

/-- How many findings of each severity there are. -/
def summary (f : Findings) : String :=
  let (errors, warnings, infos) := f.tally
  (summaryColour f).paint <|
    "Found " ++ toString errors ++ " error(s), " ++ toString warnings ++ " warning(s), " ++
      toString infos ++ " info(s) in " ++ toString f.templatesChecked ++ " template(s)"

/-- Findings as text. -/
def printText (c : Checked) : String :=
  String.join (c.findings.diagnostics.map c.textOf) ++ summary c.findings ++ "\n"

/-- Findings as JSON. -/
def printJson (c : Checked) : String :=
  c.findings.encode.pretty ++ "\n"

/-- Findings with one diagnostic per line. -/
def printCompact (c : Checked) : String :=
  String.join (c.findings.diagnostics.map fun d => d.display ++ "\n")

/-- Findings in a format. -/
def print (c : Checked) : Format → String
  | .text => c.printText
  | .json => c.printJson
  | .compact => c.printCompact

end Checked

end TemplateLint.Command
