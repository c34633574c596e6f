import RecordGate.Files.Path

/-!
# `RecordGate.Evaluation.Environment` — where an evaluator runs, and with which variables

An evaluator inherits the variables of the surrounding process, except the one that names the manifest of the
application's dependencies: it always points into the application's own root.

## Contents
- `Variables` — an association list with one value for each name; `get?`, `set`, `ofList`.
- `Environment.ofRoot` — the environment for an application, whatever the surrounding variables say.
-/

namespace RecordGate

/-! ## Variables -/

/-- Values of variables by name. -/
structure Variables where
  entries : List (String × String) := []
  deriving DecidableEq, Repr

namespace Variables

/-- The value of a variable. -/
def get? (vars : Variables) (name : String) : Option String :=
  (vars.entries.find? fun entry => entry.1 == name).map (·.2)

/-- The variables after giving `name` a value; an earlier value is dropped. -/
def set (vars : Variables) (name value : String) : Variables :=
  ⟨vars.entries.filter (fun entry => entry.1 != name) ++ [(name, value)]⟩

/-- The variables of a list of assignments, of which later ones win. -/
def ofList (assignments : List (String × String)) : Variables :=
  assignments.foldl (fun vars entry => vars.set entry.1 entry.2) {}

/-- The variables whose names are in `names`. -/
def restrict (vars : Variables) (names : List String) : Variables :=
  ⟨vars.entries.filter fun entry => names.contains entry.1⟩

end Variables

/-! ## Environments -/

/-- The variable that names the manifest of the application's dependencies. -/
def manifestVariable : String :=
  "BUNDLE_GEMFILE"

/-- The manifest, relative to the root of the application. -/
def manifestFile : String :=
  "Gemfile"

/-- The directory an evaluator runs in, and all its variables. -/
structure Environment where
  directory : String
  vars : Variables
  deriving DecidableEq, Repr

/-- The environment for the application at `root`: the surrounding variables, with the manifest pinned. -/
def Environment.ofRoot (root : String) (ambient : List (String × String)) : Environment where
  directory := root
  vars := (Variables.ofList ambient).set manifestVariable (Files.Path.join root manifestFile)

end RecordGate
