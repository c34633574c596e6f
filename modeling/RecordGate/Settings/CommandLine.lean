import RecordGate.Settings.Basic

/-!
# `RecordGate.Settings.CommandLine` — flags of the command line

Arguments are read from left to right until one of them ends the reading. A flag with a value takes it behind `=`,
or from the next argument; then it is *pending* until the argument after that is looked at, so that its own faults
come to light only if the next argument is a flag that is known, or if none is left.

## Contents
- `Stop` — why reading ends early.
- `ValueFlag`, `Switch` — the flags.
- `Reader`, `Reader.settle`, `Reader.argument` — the state between arguments, and one argument.
- `flags` — what a whole command line says.
- `helpText`, `versionText` — what is written on request.
-/

namespace RecordGate.CommandLine

/-- Why the reading of a command line ends early. -/
inductive Stop where
  /-- No flag has this name, or the argument is no flag at all. -/
  | unknownArgument
  /-- A value is missing, or empty where it must not be. -/
  | invalidValue
  /-- A flag that takes no value is given one. -/
  | tooManyValues
  /-- A flag is given twice. -/
  | argumentConflict
  /-- The help text is asked for. -/
  | help
  /-- The version is asked for. -/
  | version
  deriving DecidableEq, Repr

/-- Whether the program ends as if all went well. -/
def Stop.isRequest : Stop → Bool
  | .help | .version => true
  | _ => false

/-- The status that the program ends with. -/
def Stop.exitCode (s : Stop) : Nat :=
  if s.isRequest then 0 else 2

/-! ## Flags -/

/-- The flags that take a value. -/
inductive ValueFlag where
  | projectsRoot
  | modelsPath
  | evaluator
  deriving DecidableEq, Repr

/-- The flags that take none. -/
inductive Switch where
  | verbose
  | help
  | version
  deriving DecidableEq, Repr

/-- The flag with this long name, which is written behind two hyphens. -/
def longFlag? (name : String) : Option (ValueFlag ⊕ Switch) :=
  [("projects-root", .inl .projectsRoot), ("models-path", .inl .modelsPath), ("evaluator", .inl .evaluator),
    ("verbose", .inr .verbose), ("help", .inr .help), ("version", .inr .version)].lookup name

/-- The switch with this short name, which is written behind one hyphen. -/
def shortSwitch? (name : Char) : Option Switch :=
  [('v', .verbose), ('h', .help), ('V', .version)].lookup name

/-- The value given for a flag. -/
def ValueFlag.get? (flag : ValueFlag) (flags : Flags) : Option String :=
  match flag with
  | .projectsRoot => flags.projectsRoot
  | .modelsPath => flags.modelsPath
  | .evaluator => flags.evaluator

/-- The flags with a value for one of them. -/
def ValueFlag.set (flag : ValueFlag) (value : String) (flags : Flags) : Flags :=
  match flag with
  | .projectsRoot => { flags with projectsRoot := some value }
  | .modelsPath => { flags with modelsPath := some value }
  | .evaluator => { flags with evaluator := some value }

/-- Whether a flag may have an empty value. Paths may not. -/
def ValueFlag.allowsEmpty : ValueFlag → Bool
  | .evaluator => true
  | _ => false

/-! ## Reading -/

/-- What has been read: the flags, and the flag whose value is not settled yet. -/
structure Reader where
  flags : Flags := {}
  pending : Option (ValueFlag × Option String) := none
  /-- Whether a lone `--` has been read, behind which there may be nothing. -/
  escaped : Bool := false

/-- Gives a flag its value. -/
def Reader.give (r : Reader) (flag : ValueFlag) (value : Option String) : Except Stop Reader :=
  match value with
  | none => .error .invalidValue
  | some value =>
    if (flag.get? r.flags).isSome then .error .argumentConflict
    else if value.isEmpty && !flag.allowsEmpty then .error .invalidValue
    else .ok { r with flags := flag.set value r.flags }

/-- Settles the pending flag. -/
def Reader.settle (r : Reader) : Except Stop Reader :=
  match r.pending with
  | none => .ok r
  | some (flag, value) => { r with pending := none }.give flag value

/-- Turns a switch on. -/
def Reader.turnOn (r : Reader) (switch : Switch) : Except Stop Reader := do
  let r ← r.settle
  match switch with
  | .help => .error .help
  | .version => .error .version
  | .verbose =>
    if r.flags.verbose then .error .argumentConflict
    else .ok { r with flags := { r.flags with verbose := true } }

/-- Turns on the switches whose short names are `names`. -/
def Reader.turnOnAll (r : Reader) : List Char → Except Stop Reader
  | [] => .ok r
  | name :: names =>
    match shortSwitch? name with
    | none => .error .unknownArgument
    | some switch => do
      let r ← r.turnOn switch
      r.turnOnAll names

/-- An argument that starts with two hyphens and goes on. -/
def Reader.longArgument (r : Reader) (body : List Char) : Except Stop Reader :=
  let name := String.ofList (body.takeWhile (· != '='))
  let attached := match body.dropWhile (· != '=') with
    | [] => none
    | _ :: value => some (String.ofList value)
  match longFlag? name, attached with
  | none, _ => .error .unknownArgument
  | some (.inr _), some _ => .error .tooManyValues
  | some (.inr switch), none => r.turnOn switch
  | some (.inl flag), some value => do
    let r ← r.settle
    r.give flag (some value)
  | some (.inl flag), none => do
    let r ← r.settle
    .ok { r with pending := some (flag, none) }

/-- An argument that is no flag: the value that is waited for, or nothing known. -/
def Reader.plainArgument (r : Reader) (argument : String) : Except Stop Reader :=
  match r.pending with
  | some (flag, none) => .ok { r with pending := some (flag, some argument) }
  | _ => .error .unknownArgument

/-- One argument. -/
def Reader.argument (r : Reader) (argument : String) : Except Stop Reader :=
  if r.escaped then .error .unknownArgument
  else
    match argument.toList with
    | ['-', '-'] => .ok { r with escaped := true }
    | '-' :: '-' :: body => r.longArgument body
    | '-' :: name :: names => r.turnOnAll (name :: names)
    | _ => r.plainArgument argument

/-- The flags that a list of arguments gives. -/
def flags (arguments : List String) : Except Stop Flags := do
  let r ← arguments.foldlM Reader.argument {}
  let r ← r.settle
  .ok r.flags

/-! ## Texts -/

/-- The name of the program, with its version. -/
def versionText : String :=
  "recordbridge-mcp 0.1.0\n"

/-- What the program is for, and its flags. -/
def helpText : String :=
  "Read-only record queries for AI agents via MCP\n\n" ++
  "Usage: recordbridge-mcp [OPTIONS]\n\n" ++
  "Options:\n" ++
  "      --projects-root <PROJECTS_ROOT>  Application root (overrides RECORDBRIDGE_PROJECTS_ROOT; default: cwd)\n" ++
  "      --models-path <MODELS_PATH>      Model directory relative to the root " ++
    "(overrides RECORDBRIDGE_MODELS_PATH)\n" ++
  "      --evaluator <EVALUATOR>          Interpreter used to evaluate queries (overrides RECORDBRIDGE_EVALUATOR)\n" ++
  "  -v, --verbose                        Enable debug logging on stderr\n" ++
  "  -h, --help                           Print help\n" ++
  "  -V, --version                        Print version\n"

/-- What is written when the reading ends early. -/
def Stop.output : Stop → String
  | .help => helpText
  | .version => versionText
  | _ => ""

end RecordGate.CommandLine
