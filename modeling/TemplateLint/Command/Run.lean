import TemplateLint.Command.Output

/-!
# Runs

A run answers the arguments of the command line. It sees the world only through its surroundings,
and what it does to the world is part of its outcome.

## Main definitions

* `Outcome`: what a run prints, writes and returns
* `run`: the outcome of the arguments
* `pathsRead`: the paths at which a run may look for files
-/

namespace TemplateLint.Command

/-- What a run prints, writes and returns. -/
structure Outcome where
  exit : Nat := 0
  output : String := ""
  /-- The last words of a run that failed. -/
  error : Option String := none
  log : Log := []
  /-- The new text of the configuration in the working directory, if it was written. -/
  written : Option String := none

/-- The result of a task: the status, what is printed, and what is written. -/
structure Result where
  exit : Nat := 0
  output : String := ""
  written : Option String := none

/-! ### Tasks -/

/-- The status of a check: findings fail only for an error. -/
def statusOf (f : Findings) : Nat :=
  if f.hasErrors then 1 else 0

/-- Checks files and prints the findings. -/
def runCheck (files : Files) (config : ConfigSource) (paths : List String) (format : Format) :
    Logged (Except Failure Result) := do
  match ← check files config paths with
  | .error failure => return .error failure
  | .ok checked =>
    return .ok { exit := statusOf checked.findings, output := checked.print format }

/-- Severity and options of the active rules by name. -/
def normalized (linter : Linter) : Json :=
  Json.canonical <| .obj <| linter.settings.map fun (name, severity, options) =>
    (name, .obj [("options", options), ("severity", severity.encode)])

/-- Builds the linter of a configuration and prints its settings. -/
def runValidate (files : Files) (config : ConfigSource) : Logged (Except Failure Result) := do
  match ← config.load files with
  | .error failure => return .error failure
  | .ok config =>
    match ← buildLinter config with
    | .error failure => return .error failure
    | .ok linter =>
      Logged.emit .info <|
        "Configuration OK: " ++ toString linter.rules.length ++ " rule(s) enabled"
      return .ok { output := (normalized linter).pretty ++ "\n" }

/-- A text in a field of a given width. -/
def padRight (width : Nat) (text : String) : String :=
  text ++ String.ofList (List.replicate (width - text.length) ' ')

/-- One line of the table of rules. -/
def ruleRow (plugin name description : String) : String :=
  padRight 32 plugin ++ " " ++ padRight 15 name ++ " " ++ description ++ "\n"

/-- The table of rules. -/
def ruleTable : String :=
  "Available rules:\n\n" ++ ruleRow "Plugin" "Name" "Description" ++
    String.ofList (List.replicate 80 '-') ++ "\n" ++
    String.join (plugins.flatMap fun p =>
      p.rules.map fun r => ruleRow p.name r.name r.description) ++
    "\nEnable rules in .template-lintrc.json, e.g.:\n" ++
    "  \x7b \"rules\": \x7b \"denylist\": \x7b \"attributes\": [\x7b \"name\": \"class\", " ++
    "\"values\": \"^test__\" \x7d] \x7d \x7d \x7d\n"

/-- The path of the configuration that `init` writes. -/
def initialPath : String := ".template-lintrc.json"

/-- The configuration that `init` writes. -/
def initialConfig : String :=
  "\x7b\n" ++
  "  \"plugins\": [\"template-lint-plugin-denylist\"],\n" ++
  "  \"rules\": \x7b\n" ++
  "    \"denylist\": \x7b\n" ++
  "      \"attributes\": [\n" ++
  "        \x7b \"name\": \"class\", \"values\": [\"^test__\"] \x7d,\n" ++
  "        \x7b \"name\": \"data-testid\", \"values\": [] \x7d\n" ++
  "      ]\n" ++
  "    \x7d\n" ++
  "  \x7d\n" ++
  "\x7d\n"

/-- What `init` prints when it has written the configuration. -/
def nextSteps : String :=
  "Created " ++ initialPath ++ "\n\nNext steps:\n" ++
    "  1. Edit " ++ initialPath ++ " to list forbidden attribute values\n" ++
    "  2. Run: template-lint check <template.json>...\n"

/-- Writes a configuration to begin with, unless there is one that may not be replaced. -/
def runInit (files : Files) (force : Bool) : Except Failure Result :=
  if files.exists initialPath ∧ ! force then
    .error ⟨"Configuration file already exists at " ++ initialPath ++
      ". Use --force to overwrite.", []⟩
  else if files.isDirectory initialPath then
    .error ⟨ReadFault.isDirectory.message, []⟩
  else .ok { output := nextSteps, written := some initialConfig }

/-! ### Runs -/

/-- Does a task. -/
def perform (files : Files) (config : ConfigSource) : Task → Logged (Except Failure Result)
  | .check paths format => runCheck files config paths format
  | .validateConfig => runValidate files config
  | .listRules => pure (.ok { output := ruleTable })
  | .init force => pure (runInit files force)

/-- Finds the configuration and does the task that was asked for. -/
def invoke (s : Surroundings) (i : Invocation) : Logged (Except Failure Result) := do
  let config ← ConfigSource.find s i.config
  perform s.files config i.task

/-- The messages that are shown: without being asked for, those for debugging are not. -/
def shown (verbose : Bool) (log : Log) : Log :=
  log.from (if verbose then .debug else .info)

/-- The outcome of an invocation. -/
def outcomeOf (verbose : Bool) (x : Logged (Except Failure Result)) : Outcome :=
  match x.value with
  | .error failure =>
    { exit := 1, error := some failure.render, log := shown verbose x.log }
  | .ok result =>
    { exit := result.exit, output := result.output, log := shown verbose x.log,
      written := result.written }

/-- The paths at which a run may look for files. -/
def pathsRead (workDir : String) (globalDir : Option String) (arguments : List String) :
    List String :=
  match Request.ofArguments arguments with
  | .run i =>
    let inputs := match i.task with
      | .check paths _ => paths ++ paths.map FilePath.siblingSource
      | _ => []
    i.config.toList ++ ConfigSource.projectNames.map (FilePath.join workDir) ++
      (globalDir.map (FilePath.join · ConfigSource.globalName)).toList ++ [initialPath] ++ inputs
  | _ => []

/-- The name and the version of the program. -/
def versionLine : String := "template-lint 0.1.0\n"

/-- How the program is used. -/
def usage : String :=
  "Template linter with attribute denylist support\n\n" ++
  "Usage: template-lint [OPTIONS] <COMMAND>\n\n" ++
  "Commands:\n" ++
  "  check            Lint parsed templates\n" ++
  "  validate-config  Validate the configuration and print the normalized rule options\n" ++
  "  list-rules       List available rules\n" ++
  "  init             Initialize configuration file\n" ++
  "  help             Print this message or the help of the given subcommand(s)\n\n" ++
  "Options:\n" ++
  "  -v, --verbose          Enable verbose output\n" ++
  "  -c, --config <CONFIG>  Path to configuration file\n" ++
  "  -h, --help             Print help\n" ++
  "  -V, --version          Print version\n"

/-- The outcome of the arguments. -/
def run (s : Surroundings) (arguments : List String) : Outcome :=
  match Request.ofArguments arguments with
  | .run i => outcomeOf i.verbose (invoke s i)
  | .version => { output := versionLine }
  | .help => { output := usage }
  | .misuse => { exit := 2, error := some usage }

end TemplateLint.Command
