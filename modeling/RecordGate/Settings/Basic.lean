import RecordGate.Files.Path
import RecordGate.Gate.Basic
import RecordGate.Text.Blank

/-!
# `RecordGate.Settings.Basic` — where the application is, and how it is evaluated

Settings are layered: defaults, then variables of the environment, then flags of the command line. Variables are
trimmed and ignored when blank; flags are taken as they are. Each of the three settings is layered on its own.
-/

namespace RecordGate

open Text

/-- The settings of a server. -/
structure Settings where
  /-- The root of the application. -/
  projectsRoot : String
  /-- The directory of the model files, below the root unless it is absolute. -/
  modelsPath : String := "app/models"
  /-- The program that evaluates texts. -/
  evaluator : String := "ruby"
  deriving DecidableEq, Repr

/-- What the flags of a command line say. -/
structure Flags where
  projectsRoot : Option String := none
  modelsPath : Option String := none
  evaluator : Option String := none
  verbose : Bool := false
  deriving DecidableEq, Repr

namespace Settings

def projectsRootVariable : String := "RECORDBRIDGE_PROJECTS_ROOT"
def modelsPathVariable : String := "RECORDBRIDGE_MODELS_PATH"
def evaluatorVariable : String := "RECORDBRIDGE_EVALUATOR"

/-- The value of a variable without the white space around it, unless nothing is left. -/
def valueOf? (get? : String → Option String) (name : String) : Option String :=
  (nonBlank? (get? name)).map trimmed

/-- The defaults in a working directory, overridden by variables. -/
def ofVariables (workingDirectory : String) (get? : String → Option String) : Settings where
  projectsRoot := (valueOf? get? projectsRootVariable).getD workingDirectory
  modelsPath := (valueOf? get? modelsPathVariable).getD "app/models"
  evaluator := (valueOf? get? evaluatorVariable).getD "ruby"

/-- Settings overridden by flags. -/
def withFlags (s : Settings) (f : Flags) : Settings where
  projectsRoot := f.projectsRoot.getD s.projectsRoot
  modelsPath := f.modelsPath.getD s.modelsPath
  evaluator := f.evaluator.getD s.evaluator

/-- The directory of the model files. -/
def modelsDirectory (s : Settings) : String :=
  Files.Path.join s.projectsRoot s.modelsPath

/-- The gate in front of the application. -/
def gate (s : Settings) : Gate :=
  ⟨s.projectsRoot, s.evaluator⟩

end Settings

end RecordGate
