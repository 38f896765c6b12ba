import TemplateLint.Command.ConfigSource
import TemplateLint.Denylist.Rule
import TemplateLint.Json.Reader
import TemplateLint.Linter
import TemplateLint.Template.Decode

/-!
# Checking files

A check lints the templates in some files and joins the findings in the order of the files. A file
holds the tree of a template and, perhaps, its source; without a source in it, the source is the
file that lies beside it. A source that cannot be read is empty. The first file that cannot be read
as a tree ends the check.

## Main definitions

* `TemplateFile`: the tree of a template with its source
* `loadTemplate`: a template and its source from a file
* `Checked`, `checkFiles`: the findings in some files, and the sources they were found in
* `buildLinter`: the linter of a configuration
-/

namespace TemplateLint.Command

open Json (Record Decoder Outline)

/-- The plugins of the program. -/
def plugins : List Plugin := [Denylist.plugin]

/-- The linter of a configuration. -/
def buildLinter (config : Config) : Logged (Except Failure Linter) := do
  let built ← Blueprint.build { plugins, config }
  return built.mapError fun e => ⟨"Failed to build linter", [e.message]⟩

/-! ### Files of templates -/

/-- The tree of a template with its source, if that is in the same file. -/
structure TemplateFile where
  source : Option String
  body : List Node

namespace TemplateFile

/-- The fields of the file of a template. -/
def record : Record := ⟨"AstFile", ["source", "body"]⟩

/-- Reads the file of a template. -/
def decode : Decoder TemplateFile :=
  fun j => record.decode .plain
    (fun s => mk <$> s.optional "source" none (Json.nullable Json.text)
      <*> s.optional "body" [] (Json.list (Node.decodeWithin .plain j.depth))) j

/-- The used parts of the file of a template. -/
def outline : Outline := .record [("source", .whole), ("body", .whole)]

/-- The file of a template that a text spells. -/
def ofText? (text : String) : Option TemplateFile := do
  let j ← Json.ofTextBy? outline text
  (decode j).toOption

end TemplateFile

/-- The source that lies beside a file, or the empty text when it cannot be read. -/
def siblingText (files : Files) (path : String) : Logged String :=
  let sibling := FilePath.siblingSource path
  match files.read sibling with
  | .ok text => pure text
  | .error _ =>
    ⟨"", [⟨.warn, "No source for " ++ path ++ " (looked for " ++ sibling ++
      "); snippets will be empty"⟩]⟩

/-- The template in a file, and its source. -/
def loadTemplate (files : Files) (path : String) :
    Logged (Except Failure (Template × String)) :=
  match files.read path with
  | .error fault => pure (.error ⟨"Failed to read " ++ path, [fault.message]⟩)
  | .ok text =>
    match TemplateFile.ofText? text with
    | none =>
      pure (.error ⟨"Failed to parse template AST: " ++ path, ["not the tree of a template"]⟩)
    | some file =>
      match file.source with
      | some source => pure (.ok (⟨file.body⟩, source))
      | none => do
        let source ← siblingText files path
        return .ok (⟨file.body⟩, source)

/-! ### Checks -/

/-- The findings in some files, and the sources of the files by path. -/
structure Checked where
  findings : Findings := {}
  sources : List (String × String) := []

namespace Checked

/-- The source of a file. -/
def source? (c : Checked) (path : String) : Option String :=
  (c.sources.find? (·.1 = path)).map (·.2)

/-- What is checked with one more file after it. -/
def add (c : Checked) (path source : String) (found : Findings) : Checked :=
  ⟨c.findings.extend (found.inFile path), (path, source) :: c.sources⟩

end Checked

/-- Checks files after those that are checked already. -/
def checkFilesAfter (files : Files) (linter : Linter) (c : Checked) :
    List String → Logged (Except Failure Checked)
  | [] => pure (.ok c)
  | path :: rest => do
    match ← loadTemplate files path with
    | .error failure => return .error failure
    | .ok (template, source) =>
      let found ← linter.lint template source
      checkFilesAfter files linter (c.add path source found) rest

/-- Checks files. -/
def checkFiles (files : Files) (linter : Linter) (paths : List String) :
    Logged (Except Failure Checked) :=
  checkFilesAfter files linter {} paths

/-- Checks files with the linter of the configuration from a source. -/
def check (files : Files) (config : ConfigSource) (paths : List String) :
    Logged (Except Failure Checked) := do
  match ← config.load files with
  | .error failure => return .error failure
  | .ok config =>
    match ← buildLinter config with
    | .error failure => return .error failure
    | .ok linter =>
      Logged.emit .info <|
        "Linting " ++ toString paths.length ++ " template(s) with " ++
          toString linter.rules.length ++ " rule(s)"
      checkFiles files linter paths

end TemplateLint.Command
