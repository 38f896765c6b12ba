/-!
# Arguments

The arguments of the command line: options, the name of a command, and the arguments of that
command. Options may stand among the other arguments; `--` ends them. Arguments are read from left
to right, and the first one that is at fault, or that asks for the version or for help, decides.

## Main definitions

* `Invocation`: what the program is asked to do, and how
* `Request`: an invocation, or what else the arguments may mean
* `Request.ofArguments`: the request that arguments make
-/

namespace TemplateLint.Command

/-- How findings are printed. -/
inductive Format where
  | text
  | json
  | compact
  deriving DecidableEq, Repr

/-- The format called `name`. -/
def Format.ofName? : String → Option Format
  | "text" => some .text
  | "json" => some .json
  | "compact" => some .compact
  | _ => none

/-- What the program is asked to do. -/
inductive Task where
  | check (paths : List String) (format : Format)
  | validateConfig
  | listRules
  | init (force : Bool)
  deriving DecidableEq, Repr

/-- A task, the configuration to use and whether to show all messages. -/
structure Invocation where
  verbose : Bool
  config : Option String
  task : Task
  deriving DecidableEq, Repr

/-- What arguments may mean. -/
inductive Request where
  | run (i : Invocation)
  | version
  | help
  /-- The arguments make no sense. -/
  | misuse
  deriving DecidableEq, Repr

/-- The commands by name. -/
inductive Name where
  | check
  | validateConfig
  | listRules
  | init
  deriving DecidableEq, Repr

/-- The command called `name`. -/
def Name.ofString? : String → Option Name
  | "check" => some .check
  | "validate-config" => some .validateConfig
  | "list-rules" => some .listRules
  | "init" => some .init
  | _ => none

/-- Where arguments stand: before the name of a command, or after it. -/
inductive Level where
  | top
  | command (name : Name)
  deriving DecidableEq, Repr

/-- The options of the program. -/
inductive Switch where
  | verbose
  | config
  | format
  | force
  | help
  | version
  deriving DecidableEq, Repr

namespace Switch

/-- The option with a long name. -/
def ofLong? : String → Option Switch
  | "verbose" => some verbose
  | "config" => some config
  | "format" => some format
  | "force" => some force
  | "help" => some help
  | "version" => some version
  | _ => none

/-- The option with a name of one letter. -/
def ofShort? : Char → Option Switch
  | 'v' => some verbose
  | 'c' => some config
  | 'f' => some format
  | 'h' => some help
  | 'V' => some version
  | _ => none

/-- Whether an option may be used at a level. -/
def isKnown (level : Level) : Switch → Bool
  | verbose => true
  | config => true
  | help => true
  | format => level = .command .check
  | force => level = .command .init
  | version => level = .top

/-- Whether an option takes a value. -/
def takesValue : Switch → Bool
  | config => true
  | format => true
  | _ => false

end Switch

/-- What the arguments at one level have said so far. -/
structure Collected where
  verbose : Bool := false
  force : Bool := false
  config : Option String := none
  format : Option Format := none
  paths : List String := []

namespace Collected

/-- Takes note of an option without a value; each may be given once. -/
def flag (c : Collected) : Switch → Except Request Collected
  | .verbose => if c.verbose then .error .misuse else .ok { c with verbose := true }
  | .force => if c.force then .error .misuse else .ok { c with force := true }
  | .help => .error .help
  | .version => .error .version
  | .config => .error .misuse
  | .format => .error .misuse

/-- Takes note of an option with its value; each may be given once. -/
def valued (c : Collected) (o : Switch) (value : String) : Except Request Collected :=
  match o with
  | .config =>
    if c.config.isSome ∨ value = "" then .error .misuse else .ok { c with config := some value }
  | .format =>
    match c.format, Format.ofName? value with
    | none, some format => .ok { c with format := some format }
    | _, _ => .error .misuse
  | _ => .error .misuse

/-- Takes note of an argument that is no option. Only `check` has such arguments, and none of them
is empty. -/
def positional (c : Collected) (level : Level) (value : String) : Except Request Collected :=
  if level = .command .check ∧ value ≠ "" then .ok { c with paths := c.paths ++ [value] }
  else .error .misuse

end Collected

/-! ### Reading -/

/-- What follows an option: the value attached to it, or else the next argument. A value that is
not attached does not look like an option. -/
def valueOf (attached : Option String) (rest : List String) :
    Except Request (String × List String) :=
  match attached, rest with
  | some value, _ => .ok (value, rest)
  | none, next :: more =>
    if next.startsWith "-" ∧ next ≠ "-" then .error .misuse else .ok (next, more)
  | none, [] => .error .misuse

/-- The letters of an argument such as `-vc`. An option with a value takes the rest of the argument
as its value, or the next argument when there is no rest. -/
def cluster (level : Level) (c : Collected) (rest : List String) :
    List Char → Except Request (Collected × List String)
  | [] => .ok (c, rest)
  | letter :: letters =>
    match Switch.ofShort? letter with
    | none => .error .misuse
    | some o =>
      if ! o.isKnown level then .error .misuse
      else if o.takesValue then do
        let attached := match letters with
          | [] => none
          | '=' :: value => some (String.ofList value)
          | value => some (String.ofList value)
        let (value, rest) ← valueOf attached rest
        return (← c.valued o value, rest)
      else do
        let c ← c.flag o
        cluster level c rest letters

/-- An argument such as `--config=x`, given without its two dashes. -/
def long (level : Level) (c : Collected) (rest : List String) (argument : List Char) :
    Except Request (Collected × List String) := do
  let name := String.ofList (argument.takeWhile (· ≠ '='))
  let attached := match argument.dropWhile (· ≠ '=') with
    | [] => none
    | _ :: value => some (String.ofList value)
  match Switch.ofLong? name with
  | none => .error .misuse
  | some o =>
    if ! o.isKnown level then .error .misuse
    else if o.takesValue then
      let (value, rest) ← valueOf attached rest
      return (← c.valued o value, rest)
    else if attached.isSome then .error .misuse
    else return (← c.flag o, rest)

/-- What `help` asks for, given the arguments after it: help on the program, or on one command. -/
def helpOn : List String → Request
  | [] => .help
  | [topic] => if topic = "help" ∨ (Name.ofString? topic).isSome then .help else .misuse
  | _ => .misuse

/-- What the arguments up to the name of a command say, the name and the arguments after it. After
the name of a command there is no other one. -/
def collect (level : Level) : Nat → Collected → List String →
    Except Request (Collected × Option (Name × List String))
  | _, c, [] => .ok (c, none)
  | 0, _, _ :: _ => .error .misuse
  | fuel + 1, c, argument :: rest =>
    match argument.toList with
    | ['-', '-'] => do
      let c ← rest.foldlM (fun c value => c.positional level value) c
      return (c, none)
    | '-' :: '-' :: name => do
      let (c, rest) ← long level c rest name
      collect level fuel c rest
    | '-' :: letter :: letters => do
      let (c, rest) ← cluster level c rest (letter :: letters)
      collect level fuel c rest
    | _ =>
      if level = .top then
        match Name.ofString? argument with
        | some name => .ok (c, some (name, rest))
        | none => .error (if argument = "help" then helpOn rest else .misuse)
      else do
        let c ← c.positional level argument
        collect level fuel c rest

/-- The task of a command, given what its arguments say. -/
def taskOf (name : Name) (c : Collected) : Except Request Task :=
  match name with
  | .check =>
    if c.paths.isEmpty then .error .misuse else .ok (.check c.paths (c.format.getD .text))
  | .validateConfig => .ok .validateConfig
  | .listRules => .ok .listRules
  | .init => .ok (.init c.force)

/-- The invocation that arguments ask for. The options of the program may stand before or after the
name of the command, where the later configuration holds. -/
def invocation (arguments : List String) : Except Request Invocation := do
  let (before, command) ← collect .top arguments.length {} arguments
  match command with
  | none => .error .misuse
  | some (name, rest) =>
    let (after, _) ← collect (.command name) rest.length {} rest
    let task ← taskOf name after
    return ⟨before.verbose || after.verbose, after.config <|> before.config, task⟩

/-- The request that arguments make. -/
def Request.ofArguments (arguments : List String) : Request :=
  match invocation arguments with
  | .ok i => .run i
  | .error request => request

end TemplateLint.Command
