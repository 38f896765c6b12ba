import TemplateLint.Location
import TemplateLint.Severity
import TemplateLint.Json.Document

/-!
# Diagnostics

What a rule found at one place of a template: the rule, how serious the finding is, a message, the
place and the source that is quoted there.

## Main definitions

* `Diagnostic`
* `Diagnostic.display`, `Diagnostic.format`: the layouts on one line and on several lines
* `Diagnostic.encode`, `Diagnostic.decode`: diagnostics as data
-/

namespace TemplateLint

open Json (Place Record Decoder Outline)

/-- A finding at one place of a template. -/
structure Diagnostic where
  rule : String
  severity : Severity
  message : String
  /-- The place of the finding. -/
  span : Span
  /-- The quoted source, which may be empty. -/
  source : String := ""
  /-- Whether the finding can be mended automatically. -/
  isFixable : Bool := false
  /-- The file of the template, when there is one. -/
  file : Option String := none
  deriving DecidableEq, Repr, Inhabited

namespace Diagnostic

/-- A position as messages show it. -/
def showPosition (p : Position) : String :=
  toString p.line ++ ":" ++ toString p.column

/-- A diagnostic on one line. -/
def display (d : Diagnostic) : String :=
  let file := match d.file with
    | some file => file ++ ":"
    | none => ""
  file ++ showPosition d.span.start ++ ": " ++ d.severity.name ++ " [" ++ d.rule ++ "] " ++
    d.message

/-- Where a diagnostic stands: its file and start, or its whole span when it has no file. -/
def place (d : Diagnostic) : String :=
  match d.file with
  | some file => file ++ ":" ++ showPosition d.span.start
  | none => showPosition d.span.start ++ "-" ++ showPosition d.span.finish

/-- The quoted source on a line of its own, or nothing when it is empty. -/
def quotedLine (d : Diagnostic) : String :=
  if d.source = "" then "" else "  | " ++ d.source ++ "\n"

/-- A diagnostic on several lines. -/
def format (d : Diagnostic) : String :=
  d.rule ++ " at " ++ d.place ++ "\n" ++
    "  " ++ d.severity.name ++ ": " ++ d.message ++ "\n" ++ d.quotedLine

/-! ### Diagnostics as data -/

/-- The fields of a diagnostic. -/
def record : Record :=
  ⟨"Diagnostic", ["rule", "severity", "message", "line", "column", "endLine", "endColumn", "source",
    "isFixable", "file"]⟩

/-- A diagnostic as data. A file that is not known is left out. -/
def encode (d : Diagnostic) : Json :=
  let file := match d.file with
    | some file => [("file", Json.str file)]
    | none => []
  .obj <|
    [("rule", .str d.rule), ("severity", d.severity.encode), ("message", .str d.message),
      ("line", .nat d.span.start.line), ("column", .nat d.span.start.column),
      ("endLine", .nat d.span.finish.line), ("endColumn", .nat d.span.finish.column),
      ("source", .str d.source), ("isFixable", .bool d.isFixable)] ++ file

/-- A diagnostic from its fields. -/
def ofFields (rule : String) (severity : Severity) (message : String)
    (line column endLine endColumn : Nat) (source : String) (isFixable : Bool)
    (file : Option String) : Diagnostic :=
  ⟨rule, severity, message, ⟨⟨line, column⟩, ⟨endLine, endColumn⟩⟩, source, isFixable, file⟩

/-- The path of a file. -/
def filePath : Decoder String
  | .str s => .ok s
  | j => .error (.wrongType j "path string")

/-- Reads a diagnostic. -/
def decode (p : Place) : Decoder Diagnostic :=
  record.decode p fun s =>
    ofFields <$> s.required "rule" Json.text <*> s.required "severity" Severity.decode
      <*> s.required "message" Json.text <*> s.required "line" Json.natural
      <*> s.required "column" Json.natural <*> s.required "endLine" Json.natural
      <*> s.required "endColumn" Json.natural <*> s.required "source" Json.text
      <*> s.required "isFixable" Json.boolean <*> s.optional "file" none (Json.nullable filePath)

/-- The used parts of a diagnostic's text. -/
def outline : Outline := .record (record.fields.map fun name => (name, .whole))

end Diagnostic

end TemplateLint
