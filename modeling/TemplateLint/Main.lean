import TemplateLint.Command.Run

/-!
# The program

The outer layer of the program: it reads the files at which a run may look, lets the run happen, and
does what its outcome says.
-/

namespace TemplateLint.Program

open Command

/-- Why a file could not be read. Some calls report the negative of the system's number. -/
def faultOf : IO.Error → ReadFault
  | .noFileOrDirectory _ _ _ => .notFound
  | .inappropriateType _ code details =>
    let number := min code (0 - code)
    if number = 20 then .notADirectory
    else if number = 21 then .isDirectory
    else .other details
  | e => .other (toString e)

/-- Reads a file as text. -/
def readText (path : String) : IO (Except ReadFault String) := do
  match ← (IO.FS.readBinFile path).toBaseIO with
  | .error e => return .error (faultOf e)
  | .ok bytes =>
    match String.fromUTF8? bytes with
    | some text => return .ok text
    | none => return .error .notText

/-- The directory of the global configuration. -/
def globalDir? : IO (Option String) := do
  match ← IO.getEnv "TEMPLATE_LINT_CONFIG_DIR" with
  | some dir => return some dir
  | none => return (← IO.getEnv "HOME").map (FilePath.join · ".template-lint")

/-- Does what an outcome says, and returns the status. -/
def finish (o : Outcome) : IO UInt32 := do
  for e in o.log do
    IO.eprintln e.shownLine
  if let some text := o.written then
    match ← (IO.FS.writeFile initialPath text).toBaseIO with
    | .ok () => pure ()
    | .error e =>
      IO.eprintln (Failure.render ⟨(faultOf e).message, []⟩)
      return 1
  IO.print o.output
  if let some words := o.error then
    IO.eprintln words
  return UInt32.ofNat o.exit

end TemplateLint.Program

open TemplateLint in
/-- Runs the program. -/
def main (arguments : List String) : IO UInt32 := do
  let workDir := (← IO.currentDir).toString
  let globalDir ← Program.globalDir?
  let paths := Command.pathsRead workDir globalDir arguments
  let found ← paths.mapM fun path => return (path, ← Program.readText path)
  Program.finish (Command.run ⟨workDir, globalDir, Files.ofList found⟩ arguments)
