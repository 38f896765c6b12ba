/-!
# Files

What a run sees of a file system: for every path the text of the file there, or why there is none.

## Main definitions

* `ReadFault` and its message
* `Files`, `Files.ofList`, `Files.exists`, `Files.isDirectory`
-/

namespace TemplateLint

/-- Why a file cannot be read as text. -/
inductive ReadFault where
  | notFound
  | isDirectory
  | notADirectory
  /-- The bytes of the file are not valid UTF-8. -/
  | notText
  /-- Any other reason, in the words of the system. -/
  | other (message : String)
  deriving DecidableEq, Repr

/-- The message of the fault. -/
def ReadFault.message : ReadFault → String
  | .notFound => "No such file or directory (os error 2)"
  | .isDirectory => "Is a directory (os error 21)"
  | .notADirectory => "Not a directory (os error 20)"
  | .notText => "stream did not contain valid UTF-8"
  | .other message => message

/-- The files that a run sees. -/
structure Files where
  /-- The text of the file at a path. -/
  read : String → Except ReadFault String

/-- Files that were read beforehand; there is nothing at any other path. -/
def Files.ofList (found : List (String × Except ReadFault String)) : Files :=
  ⟨fun path => match found.find? (·.1 = path) with
    | some (_, result) => result
    | none => .error .notFound⟩

/-- Whether there is anything at a path. -/
def Files.exists (files : Files) (path : String) : Bool :=
  match files.read path with
  | .error .notFound => false
  | .error .notADirectory => false
  | _ => true

/-- Whether there is a directory at a path. -/
def Files.isDirectory (files : Files) (path : String) : Bool :=
  match files.read path with
  | .error .isDirectory => true
  | _ => false

end TemplateLint
