import TemplateLint.Command.Failure
import TemplateLint.Config.Reader
import TemplateLint.FilePath
import TemplateLint.Files.Basic
import TemplateLint.Log

/-!
# Where the configuration comes from

The configuration is the file that was asked for, or else the first one found of two names in the
working directory, or else the one in the global directory. Without any of them no rule is enabled.

## Main definitions

* `Surroundings`: what a run sees of the world
* `ConfigSource`, `ConfigSource.find`, `ConfigSource.load`
-/

namespace TemplateLint.Command

/-- What a run sees of the world. -/
structure Surroundings where
  /-- The path of the working directory. -/
  workDir : String
  /-- The path of the directory of the global configuration, if there is one. -/
  globalDir : Option String
  files : Files

/-- Where the configuration comes from. -/
inductive ConfigSource where
  | explicit (path : String)
  | project (path : String)
  | global (path : String)
  | default
  deriving DecidableEq, Repr

namespace ConfigSource

/-- The names of configurations in the working directory, in the order of their search. -/
def projectNames : List String := [".template-lintrc.json", "template-lint.toml"]

/-- The name of the configuration in the global directory. -/
def globalName : String := "config.json"

/-- The first configuration in the working directory. -/
def project? (s : Surroundings) : Option String :=
  (projectNames.map (FilePath.join s.workDir)).find? s.files.exists

/-- The configuration in the global directory. -/
def global? (s : Surroundings) : Option String :=
  (s.globalDir.map (FilePath.join · globalName)).filter s.files.exists

/-- The configuration to use. One that was asked for is not looked for. -/
def find (s : Surroundings) (asked : Option String) : Logged ConfigSource :=
  match asked with
  | some path => pure (.explicit path)
  | none =>
    match project? s with
    | some path => ⟨.project path, [⟨.debug, "Found project config: " ++ path⟩]⟩
    | none =>
      match global? s with
      | some path => ⟨.global path, [⟨.debug, "Found global config: " ++ path⟩]⟩
      | none => pure .default

/-- The configuration in a file, written in TOML or in JSON by the extension of its name. -/
def read (files : Files) (path : String) : Except (List String) Config :=
  match files.read path with
  | .error fault =>
    .error ["Failed to read config file " ++ path ++ ": " ++ fault.message, fault.message]
  | .ok text =>
    let config? :=
      if FilePath.hasExtension path "toml" then Config.ofToml? text else Config.ofJson? text
    match config? with
    | some config => .ok config
    | none => .error ["Failed to parse config: not a valid configuration"]

/-- Reads a configuration, or says what failed. -/
def readOrFail (files : Files) (path : String) : Except Failure Config :=
  (read files path).mapError fun causes => ⟨"Failed to load config: " ++ path, causes⟩

/-- Loads the configuration. -/
def load (files : Files) : ConfigSource → Logged (Except Failure Config)
  | .explicit path => pure (readOrFail files path)
  | .project path => pure (readOrFail files path)
  | .global path => ⟨readOrFail files path, [⟨.info, "Using global config: " ++ path⟩]⟩
  | .default => ⟨.ok (.ofSettings [] []), [⟨.debug, "No config found, no rules enabled"⟩]⟩

end ConfigSource

end TemplateLint.Command
