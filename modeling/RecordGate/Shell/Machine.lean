import RecordGate.Evaluation.Failure
import RecordGate.Files.Lookup
import RecordGate.Shell.Syntax

/-!
# `RecordGate.Shell.Machine` — what commands read and change

Files and streams are shared by all commands of a script. Everything else belongs to a scope: a subshell works on a
copy, and what it changes there is gone when it ends.

## Contents
- `Channel`, `World`, `Scope`, `Machine` — the state of a running script; `Machine.initial`, `Machine.ending`.
- `Machine.write`, `Machine.readAll`, `Machine.readLine` — descriptors.
- `Machine.get?`, `Machine.assign`, `Machine.exported` — variables.
- `Flow`, `Action` — what commands do.
-/

namespace RecordGate.Shell

open Files

/-! ## State -/

/-- Where a descriptor leads. -/
inductive Channel where
  /-- A stream, from which is read what was written to it. -/
  | stream (index : Nat)
  /-- The end of a file. -/
  | file (place : Location)
  /-- Nowhere: nothing is read, and what is written is lost. -/
  | nothing

/-- What all commands share. -/
structure World where
  files : Node
  streams : Array ByteArray

/-- The value of a variable, and whether the programs that are started get it too. -/
structure Variable where
  value : Octets
  isExported : Bool

/-- What belongs to one shell. -/
structure Scope where
  /-- The working directory. -/
  place : Location
  vars : List (Octets × Variable)
  /-- The name of the script. -/
  script : Octets
  positional : List Octets
  functions : List (Octets × Command) := []
  channels : List (Nat × Channel)
  /-- The status of the last command. -/
  status : Nat := 0
  /-- Whether a failing command ends the script. -/
  stopsOnFailure : Bool := false
  /-- Whether the use of an unset parameter ends the script. -/
  refusesUnset : Bool := false
  /-- Whether wildcards are kept as they are. -/
  keepsWildcards : Bool := false
  /-- The number of loops around the command that runs. -/
  loops : Nat := 0
  /-- The script that is run when the shell exits. -/
  onExit : Octets := []
  /-- What the variables were that are local to the function that runs. -/
  hidden : List (Octets × Option Variable) := []
  /-- The line of the command that runs. -/
  line : Nat := 1

/-- The state of a running script. -/
structure Machine extends World, Scope

/-! ## Descriptors -/

/-- The descriptors of all commands. -/
def standardInput : Nat := 0
def standardOutput : Nat := 1
def standardError : Nat := 2

namespace Machine

/-- Where a descriptor leads. -/
def channel (m : Machine) (descriptor : Nat) : Channel :=
  (m.channels.lookup descriptor).getD .nothing

/-- Octets written to a channel. -/
def put (m : Machine) (channel : Channel) (cs : Octets) : Machine :=
  match channel with
  | .nothing => m
  | .stream index => { m with streams := m.streams.modify index (· ++ Octets.toArray cs) }
  | .file place =>
    match m.files.at? place with
    | some (.file content executable) =>
      { m with files := m.files.put place (.file (content ++ Octets.toArray cs) executable) }
    | _ => m

/-- Octets written to a descriptor. -/
def write (m : Machine) (descriptor : Nat) (cs : Octets) : Machine :=
  m.put (m.channel descriptor) cs

/-- Output. -/
def print (m : Machine) (cs : Octets) : Machine :=
  m.write standardOutput cs

/-- A message of a program about itself. -/
def warn (m : Machine) (text : String) : Machine :=
  m.write standardError (Octets.ofText (text ++ "\n"))

/-- A message of the shell, with the name of the script and the line. -/
def report (m : Machine) (text : String) : Machine :=
  m.warn (Octets.toText m.script ++ ": " ++ Nat.repr m.line ++ ": " ++ text)

/-- What can be read from the input, up to `count` octets, and the machine without it. -/
def take (m : Machine) (count : Octets → Nat) : Octets × Machine :=
  match m.channel standardInput with
  | .stream index =>
    let all := Octets.ofArray (m.streams[index]?.getD .empty)
    let count := count all
    (all.take count, { m with streams := m.streams.modify index fun bytes => bytes.extract count bytes.size })
  | _ => ([], m)

/-- All input. -/
def readAll (m : Machine) : Octets × Machine :=
  m.take List.length

/-- A line of the input with its end, which only the last line may lack. -/
def readLine (m : Machine) : Octets × Machine :=
  m.take fun cs => (cs.takeWhile (· != '\n')).length + 1

/-- A new stream with this content, and its index. -/
def newStream (m : Machine) (cs : Octets) : Nat × Machine :=
  (m.streams.size, { m with streams := m.streams.push (Octets.toArray cs) })

/-- The machine without a descriptor. -/
def disconnect (m : Machine) (descriptor : Nat) : Machine :=
  { m with channels := m.channels.filter (·.1 != descriptor) }

/-- The machine with a descriptor that leads elsewhere. -/
def connect (m : Machine) (descriptor : Nat) (channel : Channel) : Machine :=
  { m with channels := (descriptor, channel) :: m.channels.filter (·.1 != descriptor) }

/-! ## Files -/

/-- What stands where a path leads to. -/
def find (m : Machine) (path : Octets) : Except SystemError (Location × Node) :=
  Files.find m.files m.place (Octets.toBytes path)

/-- The content of a file. -/
def contentOf (m : Machine) (path : Octets) : Except SystemError Octets :=
  match m.find path with
  | .error e => .error e
  | .ok (_, .file content _) => .ok (Octets.ofArray content)
  | .ok (_, .directory _) => .error .isDirectory
  | .ok _ => .ok []

/-- A location as a path. -/
def pathOf (place : Location) : Octets :=
  if place.isEmpty then ['/'] else place.flatMap fun name => '/' :: Octets.ofBytes name

/-! ## Variables -/

/-- The value of a variable. -/
def get? (m : Machine) (name : Octets) : Option Octets :=
  (m.vars.lookup name).map (·.value)

/-- The machine after an assignment. A variable that is exported stays so. -/
def assign (m : Machine) (name value : Octets) : Machine :=
  let isExported := (m.vars.lookup name).any (·.isExported)
  { m with vars := (name, ⟨value, isExported⟩) :: m.vars.filter (·.1 != name) }

/-- The machine with an exported variable. -/
def exporting (m : Machine) (name : Octets) : Machine :=
  let value := (m.get? name).getD []
  { m with vars := (name, ⟨value, true⟩) :: m.vars.filter (·.1 != name) }

/-- The machine without a variable. -/
def forget (m : Machine) (name : Octets) : Machine :=
  { m with vars := m.vars.filter (·.1 != name) }

/-- The machine with a variable as it was before. -/
def restore (m : Machine) (name : Octets) (old : Option Variable) : Machine :=
  let others := m.vars.filter (·.1 != name)
  { m with vars := match old with
      | some v => (name, v) :: others
      | none => others }

/-- The variables that programs get. -/
def environment (m : Machine) : List (Octets × Octets) :=
  (m.vars.filter (·.2.isExported)).map fun (name, v) => (name, v.value)

/-- The machine that a program starts with: nothing can be read, and what is written is collected. -/
def initial (files : Node) (place : Location) (name : Octets) (arguments : List Octets)
    (vars : List (Octets × Octets)) : Machine where
  files := files
  streams := #[.empty, .empty]
  place := place
  vars := ("PWD".toList, ⟨pathOf place, true⟩) ::
    (vars.filter (·.1 != "PWD".toList)).map fun (name, value) => (name, ⟨value, true⟩)
  script := name
  positional := arguments
  channels := [(standardInput, .nothing), (standardOutput, .stream 0), (standardError, .stream 1)]

/-- The machine with the scope of a script that it starts. -/
def child (m : Machine) (name : Octets) (arguments : List Octets) : Machine :=
  { m with
    script := name, positional := arguments, vars := m.vars.filter (·.2.isExported), functions := [],
    status := 0, stopsOnFailure := false, refusesUnset := false, keepsWildcards := false, loops := 0, onExit := [],
    hidden := [], line := 1 }

/-- The machine with the scope of another one. -/
def withScope (m : Machine) (scope : Scope) : Machine :=
  { toWorld := m.toWorld, toScope := scope }

end Machine

/-! ## Endings -/

/-- What a program leaves. -/
structure Ending where
  output : Octets
  errors : Octets
  /-- The status that the program exits with, unless it is killed. -/
  status : Option Nat
  files : Node

/-- What a program leaves that ends here. -/
def Machine.ending (m : Machine) (status : Option Nat) : Ending :=
  let written (index : Nat) := Octets.ofArray (m.streams[index]?.getD .empty)
  ⟨written 0, written 1, status, m.files⟩

/-! ## Actions -/

/-- Why commands are left. -/
inductive Flow where
  /-- Some enclosing loops end. -/
  | broken (loops : Nat)
  /-- Some enclosing loops but the last end, and that one goes on with its next turn. -/
  | continued (loops : Nat)
  /-- The function returns. -/
  | returned
  /-- The shell exits. -/
  | exited
  /-- The whole script is killed. -/
  | killed
  deriving DecidableEq, Repr

/-- What a command does: it changes the machine, and may leave the commands around it. -/
abbrev Action := ExceptT Flow (StateM Machine)

/-- Ends a command with a status. -/
def finish (status : Nat) : Action Unit :=
  modify fun m => { m with status }

/-- A complaint that ends the shell. -/
def abort {α : Type} (text : String) : Action α := do
  modify fun m => { m.report text with status := 2 }
  throw .exited

end RecordGate.Shell
