import RecordGate.Host.Basic
import RecordGate.Tools.Service

/-!
# `RecordGate.Host.Start` — starting evaluators

A program is started in its working directory, where a path to it is followed from. A name without separators is
looked for in the directories of the search path. A script is run by the interpreter that its first line names.
Whatever prevents the start is an error of the system; once a program runs, all there is of it is its output and
whether it exits with status zero.

## Contents
- `Host.runProgram` — a program of the system.
- `Host.launch` — a program by its path.
- `Host.start` — an invocation.
- `Host.surroundings` — a host as services see it.
-/

namespace RecordGate

open Files Shell

namespace Host

/-! ## Programs -/

/-- What a program starts with. -/
structure Start where
  files : Node
  place : Location
  vars : List (Octets × Octets)

/-- The machine that a program of this name starts with. -/
def Start.machine (s : Start) (name : Octets) (arguments : List Octets) : Machine :=
  .initial s.files s.place name arguments s.vars

/-- What a program of the system leaves. Devices are no programs. -/
def runProgram (program : String) (name : Octets) (s : Start) (arguments : List Octets) : Except SystemError Ending :=
  if shellNames.contains program then .ok (shellEnding (s.machine name []) name arguments)
  else
    match Utility.external.lookup program with
    | some utility =>
      let (status, m) := utility arguments (s.machine name arguments)
      .ok (m.ending (some status))
    | none => .error .denied

/-! ## Launching -/

/-- The interpreter that a script names in its first line, and the argument it gets before the script. -/
def interpreter? (content : Octets) : Option (Octets × List Octets) :=
  match content with
  | '#' :: '!' :: rest =>
    let isBlank (c : Char) := c == ' ' || c == '\t'
    let line := (rest.takeWhile (· != '\n')).dropWhile isBlank
    let name := line.takeWhile (!isBlank ·)
    let argument := (((line.drop name.length).dropWhile isBlank).reverse.dropWhile isBlank).reverse
    if name.isEmpty then none else some (name, if argument.isEmpty then [] else [argument])
  | _ => none

/-- The directories that a search path lists. -/
def directories : Octets → List Octets
  | [] => [[]]
  | ':' :: rest => [] :: directories rest
  | c :: rest =>
    match directories rest with
    | [] => [[c]]
    | d :: ds => (c :: d) :: ds

/-- The paths under which a program of this name is tried. -/
def candidates (vars : List (Octets × Octets)) (name : Octets) : List Octets :=
  (directories ((vars.lookup pathVariable.toList).getD standardPath.toList)).map fun directory =>
    if directory.isEmpty then name else directory ++ '/' :: name

/-- Launches the first of several paths that can be launched. A missing program may stand in another directory, and
    so may one that must not be run; `refusal` is the error if no other is found. -/
def launchFirst (launch : Octets → Except SystemError Ending) (refusal : SystemError) :
    List Octets → Except SystemError Ending
  | [] => .error refusal
  | path :: rest =>
    match launch path with
    | .ok ending => .ok ending
    | .error e =>
      if e == .denied then launchFirst launch .denied rest
      else if e == .notFound || e == .notDirectory then launchFirst launch refusal rest
      else .error e

/-- Launches a program by its name, given how a path is launched. -/
def launchNamed (launch : Octets → Except SystemError Ending) (vars : List (Octets × Octets)) (name : Octets) :
    Except SystemError Ending :=
  if name.isEmpty then .error .notFound
  else if name.contains '/' then launch name
  else if name.length > Files.maxName then .error .nameTooLong
  else launchFirst launch .notFound (candidates vars name)

/-- Runs the program at a path under a name. Interpreters may be scripts too, up to `depth` of them. -/
def launchAt (depth : Nat) (s : Start) (name : Octets) (arguments : List Octets) (path : Octets) :
    Except SystemError Ending :=
  match depth with
  | 0 => .error .tooManyLinks
  | depth + 1 =>
    match Files.find s.files s.place (Octets.toBytes path) with
    | .error e => .error e
    | .ok (_, .tool "env") =>
      match arguments.dropWhile (·.contains '=') with
      | [] => runProgram "env" name s []
      | program :: arguments =>
        match launchNamed (launchAt depth s program arguments) s.vars program with
        | .ok ending => .ok ending
        | .error e =>
          let complaint := "env: '" ++ Octets.toText program ++ "': " ++ e.description
          .ok (((s.machine name []).warn complaint).ending (some (if e == .notFound then 127 else 126)))
    | .ok (_, .tool program) => runProgram program name s arguments
    | .ok (_, .file content true) =>
      match interpreter? (Octets.ofArray content) with
      | none => .error .noInterpreter
      | some (interpreter, first) => launchAt depth s interpreter (first ++ path :: arguments) interpreter
    | .ok _ => .error .denied

/-- The number of scripts that may interpret each other. -/
def maxInterpreters : Nat :=
  6

/-- Launches a program by its name. -/
def launch (s : Start) (name : Octets) (arguments : List Octets) : Except SystemError Ending :=
  launchNamed (launchAt maxInterpreters s name arguments) s.vars name

/-! ## Invocations -/

/-- The number of octets that an argument stays below. -/
def maxArgument : Nat :=
  131072

/-- Whether a text can be handed to the system. -/
def isTransferable (s : String) : Bool :=
  !s.toList.contains '\x00'

/-- Whether an invocation can be handed to the system. -/
def isStartable (i : Invocation) : Bool :=
  isTransferable i.program && isTransferable i.directory && i.arguments.all isTransferable &&
    i.vars.entries.all fun (name, value) => isTransferable name && isTransferable value

/-- The directory that an invocation runs in. -/
def workingDirectory (h : Host) (i : Invocation) : Except SystemError Location :=
  match Files.find h.files h.directory (Text.Utf8.encode i.directory) with
  | .error e => .error e
  | .ok (place, .directory _) => .ok place
  | .ok _ => .error .notDirectory

/-- What comes of an invocation as far as the system is concerned. -/
def launched (h : Host) (i : Invocation) : Except SystemError Ending := do
  let place ← h.workingDirectory i
  let arguments := i.arguments.map Octets.ofText
  let vars := i.vars.entries.map fun (name, value) => (Octets.ofText name, Octets.ofText value)
  if arguments.any fun argument => argument.length ≥ maxArgument then .error .argumentsTooLong
  else launch ⟨h.files, place, vars⟩ (Octets.ofText i.program) arguments

/-- What a program leaves, as its caller sees it. -/
def outcomeOf (e : Ending) : RecordGate.Outcome :=
  ⟨Octets.toText e.output, Octets.toText e.errors, e.status == some 0⟩

/-- Starts an invocation. -/
def start : Runner Host := fun i h =>
  if !isStartable i then (.error .nulInProgram, h)
  else
    match h.launched i with
    | .error e => (.error (.system e), h)
    | .ok ending => (.ok (outcomeOf ending), { h with files := ending.files })

/-- A host as services see it. Whatever stands in its tree can be read. -/
def surroundings (h : Host) : Surroundings Host where
  ambient := h.ambient
  start := start
  readDirectory := fun h path => (h.readDirectory path).map fun entries => entries.map .ok

end Host

end RecordGate
