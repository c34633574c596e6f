import RecordGate.Shell.Field
import RecordGate.Shell.Utility

/-!
# `RecordGate.Shell.Control` — commands that change the shell itself

These commands leave loops, functions and scripts, or change parameters and variables of the shell that runs them.

## Contents
- `Control`, `control?` — the commands by name.
-/

namespace RecordGate.Shell

/-- A command that gets its arguments and may change anything. -/
abbrev Control := List Octets → Action Unit

namespace Control

/-- The number of the process that runs a script. -/
def processNumber : Nat :=
  1000

/-- A status or count among the arguments. -/
def number (name : String) (arguments : List Octets) (otherwise : Nat) : Action Nat :=
  match arguments with
  | [] => pure otherwise
  | cs :: _ =>
    match number? cs with
    | some (.ofNat n) => pure n
    | _ => abort (name ++ ": Illegal number: " ++ Octets.toText cs)

/-- Ends the shell. -/
def exit : Control := fun arguments => do
  let m ← get
  let status ← number "exit" arguments m.status
  finish (status % 256)
  throw .exited

/-- Ends a function. -/
def leaveFunction : Control := fun arguments => do
  let m ← get
  let status ← number "return" arguments m.status
  finish (status % 256)
  throw .returned

/-- Ends loops; outside of loops nothing happens. -/
def leaveLoop : Control := fun arguments => do
  let loops ← number "break" arguments 1
  finish 0
  let m ← get
  if m.loops > 0 then throw (.broken (min loops m.loops))

/-- Goes on with the next turn of a loop. -/
def nextTurn : Control := fun arguments => do
  let loops ← number "continue" arguments 1
  finish 0
  let m ← get
  if m.loops > 0 then throw (.continued (min loops m.loops))

/-- Drops positional parameters. -/
def shift : Control := fun arguments => do
  let m ← get
  let count ← number "shift" arguments 1
  if count > m.positional.length then abort "shift: can't shift that many"
  else set { m with positional := m.positional.drop count, status := 0 }

/-- Changes options and positional parameters. -/
def setOptions : Control := fun arguments =>
  modify fun m =>
    let isOption (word : Octets) :=
      (word.head? == some '-' || word.head? == some '+') && word.length > 1 && word != ['-', '-']
    let chosen := arguments.takeWhile isOption
    let m := chosen.foldl (fun (m : Machine) word =>
      let isOn := word.head? == some '-'
      { m with stopsOnFailure := if word.contains 'e' then isOn else m.stopsOnFailure,
               refusesUnset := if word.contains 'u' then isOn else m.refusesUnset,
               keepsWildcards := if word.contains 'f' then isOn else m.keepsWildcards }) m
    let m := { m with status := 0 }
    match arguments.drop chosen.length with
    | [] => m
    | ['-', '-'] :: rest => { m with positional := rest }
    | rest => { m with positional := rest }

/-- The name and the value of an argument that may be an assignment. -/
def assignment (cs : Octets) : Octets × Option Octets :=
  let name := cs.takeWhile (· != '=')
  (name, if name.length < cs.length then some (cs.drop (name.length + 1)) else none)

/-- Gives variables to the programs that are started. -/
def share : Control := fun arguments =>
  modify fun m =>
    let m := (Utility.options arguments).2.foldl (fun m cs =>
      let (name, value) := assignment cs
      let m := match value with
        | some value => m.assign name value
        | none => m
      m.exporting name) m
    { m with status := 0 }

/-- Sets variables. -/
def declare : Control := fun arguments =>
  modify fun m =>
    let m := (Utility.options arguments).2.foldl (fun m cs =>
      match assignment cs with
      | (name, some value) => m.assign name value
      | (_, none) => m) m
    { m with status := 0 }

/-- Makes variables local to a function. -/
def hide : Control := fun arguments =>
  modify fun m =>
    let m := arguments.foldl (fun (m : Machine) cs =>
      let (name, value) := assignment cs
      let m := { m with hidden := (name, m.vars.lookup name) :: m.hidden }
      match value with
      | some value => m.assign name value
      | none => m) m
    { m with status := 0 }

/-- Arranges for a script to be run when the shell exits. -/
def arrange : Control := fun arguments =>
  modify fun m =>
    match arguments with
    | text :: signals =>
      if signals.contains ['0'] || signals.contains "EXIT".toList then
        { m with onExit := if text == ['-'] then [] else text, status := 0 }
      else { m with status := 0 }
    | [] => { m with status := 0 }

/-- Forgets variables and functions. -/
def unset : Control := fun arguments =>
  modify fun m =>
    let (letters, names) := Utility.options arguments
    let m := names.foldl (fun m name =>
      if letters.contains 'f' then { m with functions := m.functions.filter (·.1 != name) } else m.forget name) m
    { m with status := 0 }

/-- The marks of a line that is read: unless it is raw, a backslash takes the meaning of what follows it away. -/
def lineMarks (raw : Bool) : Octets → List Mark
  | [] => []
  | '\\' :: c :: rest =>
    if raw then .octet '\\' false true :: .octet c false true :: lineMarks raw rest
    else .octet c true false :: lineMarks raw rest
  | c :: rest => .octet c false true :: lineMarks raw rest

/-- The marks without separating white space in front. -/
def withoutSpace (separators : Octets) (marks : List Mark) : List Mark :=
  marks.dropWhile fun
    | .octet c _ divisible => divisible && isSpace c && separators.contains c
    | _ => false

/-- The values of variables of which the last one gets all that is left. -/
def distribute (separators : Octets) (marks : List Mark) : List Octets → List (Octets × Octets)
  | [] => []
  | [name] => [(name, joinedText (withoutSpace separators (withoutSpace separators marks).reverse).reverse)]
  | name :: names =>
    let marks := withoutSpace separators marks
    let first := marks.takeWhile fun
      | .octet c _ divisible => !(divisible && separators.contains c)
      | _ => true
    let rest := withoutSpace separators (marks.drop first.length)
    let rest := match rest with
      | .octet c _ true :: more => if separators.contains c && !isSpace c then more else rest
      | rest => rest
    (name, joinedText first) :: distribute separators rest names

/-- Reads a line into variables. -/
def read : Control := fun arguments =>
  modify fun m =>
    let (letters, names) := Utility.options arguments
    let (line, m) := m.readLine
    let isComplete := line.getLast? == some '\n'
    let line := if isComplete then line.dropLast else line
    let values := distribute m.separators (lineMarks (letters.contains 'r') line) names
    let m := values.foldl (fun m (name, value) => m.assign name value) m
    { m with status := if isComplete then 0 else 1 }

/-- Sends a signal, which only the script itself can get. -/
def kill : Control := fun arguments => do
  let m ← get
  let (signal, targets) := match arguments with
    | ['-', 's'] :: signal :: rest => (signal, rest)
    | ('-' :: signal) :: rest => (signal, rest)
    | rest => ("TERM".toList, rest)
  if targets.contains (numeral processNumber) then
    if signal == ['0'] then finish 0 else throw .killed
  else if targets.isEmpty then abort "kill: Usage: kill [-s sigspec | -signum | -sigspec] [pid | job]..."
  else set { m.report "kill: No such process" with status := 1 }

/-- The commands whose assignments last. -/
def special : List (String × Control) :=
  [("exit", exit), ("return", leaveFunction), ("break", leaveLoop), ("continue", nextTurn), ("shift", shift),
    ("set", setOptions), ("export", share), ("readonly", declare), ("unset", unset), ("trap", arrange)]

/-- The other commands. -/
def ordinary : List (String × Control) :=
  [("local", hide), ("read", read), ("kill", kill)]

end Control

end RecordGate.Shell
